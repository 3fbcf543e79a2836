import Lindenmayer.Proofs.Histories

/-!
Tables from what is shown of them. A table is shown as a mapping whose keys and replacements are texts as far as
they have characters, and numbers otherwise. Making a table of that mapping gives the same rules in the same order
(`ofMapping_display`), since whatever is shown is read as what it was and no two keys are shown alike. So what is
shown of a table says how it expands every sequence (`shown_alike`).
-/
namespace Lindenmayer.Rebuilding
open Rewriting Keys Displays Ledgers Storing Sessions Effects Histories RuleTable Index

/-- A symbol is shown as its character, and beyond the characters as its number. -/
inductive SymbolShown (s : Symbol) : Value → Prop where
  | character {c : CodePoint} (code : s.toNat = c.val) : SymbolShown s (.text [c])
  | number (beyond : 0x10FFFF < s.toNat) : SymbolShown s (.int s.toNat)

/-- A sequence is shown as its text, and as the numbers of all its symbols if one of them is beyond the
    characters. -/
inductive SequenceShown (sequence : Sequence) : Value → Prop where
  | text {text : Text} (codes : sequence.map UInt32.toNat = text.map Fin.val) : SequenceShown sequence (.text text)
  | numbers (beyond : ∃ s ∈ sequence, 0x10FFFF < s.toNat) :
    SequenceShown sequence (.list (sequence.map fun s => .int s.toNat))

/-- The entries of a mapping as the pairs that they are. -/
def items (entries : List (Value × Value)) : List Value := entries.map fun e => .list [e.1, e.2]

/-- The table of a mapping, whose keys may be any values: its entries are set one after the other. -/
def ofMapping (entries : List (Value × Value)) : Except Failure RuleTable := RuleTable.empty.insertAll (items entries)

/-- Mappings that are equal, in whatever order their entries are. -/
def SameMapping (first second : List (Value × Value)) : Prop := ∀ entry, entry ∈ first ↔ entry ∈ second

/-! ### What is shown -/

theorem symbol_shown (s : Symbol) : SymbolShown s s.display := by
  rw [Symbol.display]
  cases found : s.codePoint? with
  | some c => exact .character (codePoint?_some.mp found ▸ Conversion.ofCodePoint_toNat c)
  | none =>
    refine .number ?_
    rw [Symbol.codePoint?] at found
    by_cases inside : s.toNat < 0x110000
    · rw [dif_pos inside] at found
      cases found
    · omega

theorem sequence_shown (sequence : Sequence) : SequenceShown sequence sequence.display := by
  rw [Sequence.display]
  cases found : sequence.toText? with
  | some text => exact .text (Conversion.ofText_codes.mp (toText?_some.mp found))
  | none => exact .numbers (toText?_none.mp found)

/-! ### Making the table again -/

/-- An object is the mapping of its fields. -/
theorem ofValue_object (fields : List (Text × Value)) :
    RuleTable.ofValue (.object fields) = ofMapping (fields.map fun f => (.text f.1, f.2)) := by
  rw [ofMapping, items, List.map_map]
  rfl

/-- A list of pairs is the mapping that has them for entries. -/
theorem ofValue_items (entries : List (Value × Value)) : RuleTable.ofValue (.list (items entries)) = ofMapping entries := rfl

theorem insertAll_shown (t : RuleTable) (rules : List (Symbol × Sequence)) :
    t.insertAll (items (rules.map fun r => (r.1.display, r.2.display))) = .ok (rules.foldl (fun t r => t.insert r.1 r.2) t) := by
  induction rules generalizing t with
  | nil => rfl
  | cons rule rest ih =>
    have first : t.set rule.1.display rule.2.display = .ok (t.insert rule.1 rule.2) :=
      set_ok.mpr ⟨rule.1, rule.2, symbol_displayed rule.1, sequence_displayed rule.2, rfl⟩
    refine Outcomes.bind_ok.mpr ⟨_, rfl, Outcomes.bind_ok.mpr ⟨_, first, ?_⟩⟩
    exact ih (t.insert rule.1 rule.2)

theorem ofMapping_display {t : RuleTable} (distinct : t.keys.Nodup) :
    ofMapping (dictionary t.display) = .ok ⟨t.rules, none⟩ := by
  rw [dictionary_display distinct, ← ofRules_distinct distinct]
  exact insertAll_shown .empty t.rules

/-! ### Tables that are shown alike -/

theorem symbol_display_injective : Function.Injective Symbol.display := fun s u same =>
  Except.ok.inj ((symbol_displayed s).symm.trans (same ▸ symbol_displayed u))

theorem sequence_display_injective : Function.Injective Sequence.display := fun a b same =>
  Except.ok.inj ((sequence_displayed a).symm.trans (same ▸ sequence_displayed b))

theorem mem_display {t : RuleTable} {s : Symbol} {replacement : Sequence} :
    (s.display, replacement.display) ∈ t.display ↔ (s, replacement) ∈ t.rules := by
  constructor
  · intro shown
    obtain ⟨⟨key, given⟩, member, same⟩ := List.mem_map.mp shown
    obtain ⟨first, second⟩ := Prod.mk.inj same
    cases symbol_display_injective first
    cases sequence_display_injective second
    exact member
  · exact fun member => List.mem_map_of_mem member

/-- Tables of which the same is shown map alike. -/
theorem shown_alike {t u : RuleTable} (distinct : t.keys.Nodup) (others : u.keys.Nodup)
    (same : SameMapping (dictionary t.display) (dictionary u.display)) (s : Symbol) : t.get? s = u.get? s := by
  rw [dictionary_display distinct, dictionary_display others] at same
  refine Option.ext fun replacement => ?_
  calc t.get? s = some replacement
    _ ↔ (s, replacement) ∈ t.rules := replacement?_mem distinct
    _ ↔ (s.display, replacement.display) ∈ t.display := mem_display.symm
    _ ↔ (s.display, replacement.display) ∈ u.display := same _
    _ ↔ (s, replacement) ∈ u.rules := mem_display
    _ ↔ u.get? s = some replacement := (replacement?_mem others).symm

/-! ### Main statements -/

section
variable (K : Type) [Scalar K]

/-- A table that deeds leave in a session. -/
def Reachable (t : RuleTable) : Prop := ∃ (deeds : List (Deed K)) (place : Nat), t = (after Session.empty deeds).tableAt place

/-- What is shown of a table, what is made of it, and what it says of the table. -/
structure Rebuilt (t : RuleTable) : Prop where
  /-- The entries are the rules in their order, each part as it is shown. -/
  shown : List.Forall₂ (fun rule entry => SymbolShown rule.1 entry.1 ∧ SequenceShown rule.2 entry.2)
    t.rules (dictionary t.display)
  again : ofMapping (dictionary t.display) = .ok ⟨t.rules, none⟩
  listed : RuleTable.ofValue (.list (items (dictionary t.display))) = .ok ⟨t.rules, none⟩
  object : ∀ fields, dictionary t.display = fields.map (fun f => (.text f.1, f.2)) →
    RuleTable.ofValue (.object fields) = .ok ⟨t.rules, none⟩
  alike : ∀ u, Reachable K u → SameMapping (dictionary t.display) (dictionary u.display) → ∀ n sequence,
    ∃ result first second, t.expand n sequence = .ok (result, first) ∧ u.expand n sequence = .ok (result, second)

variable {K}

theorem reachable_distinct {t : RuleTable} (reachable : Reachable K t) : t.keys.Nodup := by
  obtain ⟨deeds, place, rfl⟩ := reachable
  exact (chronicle_recorded deeds place).distinct

theorem reachable_current {t : RuleTable} (reachable : Reachable K t) : Current t := by
  obtain ⟨deeds, place, rfl⟩ := reachable
  exact tableAt_current (after_sound empty_sound deeds).coherent place

/-- Every table that deeds leave in a session is made again from what is shown of it, with the same rules in the
    same order, and tables of which the same is shown expand every sequence alike. -/
theorem reachable_rebuilt {t : RuleTable} (reachable : Reachable K t) : Rebuilt K t := by
  have distinct := reachable_distinct reachable
  have again := ofMapping_display distinct
  exact {
    shown := by
      rw [dictionary_display distinct, RuleTable.display, List.forall₂_map_right_iff, List.forall₂_same]
      exact fun rule _ => ⟨symbol_shown rule.1, sequence_shown rule.2⟩
    again := again
    listed := (ofValue_items _).trans again
    object := fun fields same => by rw [ofValue_object, ← same, again]
    alike := fun u also same n sequence => by
      obtain ⟨first, expanded, _⟩ := expand_total_correct (reachable_current reachable) n sequence
      obtain ⟨second, others, _⟩ := expand_total_correct (reachable_current also) n sequence
      have results := rewrite_alike (reachable_current reachable) (reachable_current also)
        (shown_alike distinct (reachable_distinct also) same) n sequence
      rw [expanded, others] at results
      have result : t.generation n sequence = u.generation n sequence := Except.ok.inj results
      exact ⟨_, first, second, expanded, result ▸ others⟩ }

/-- A table of a surrogate that is deleted, of a letter that becomes a surrogate and of a symbol beyond the
    characters, which keeps a letter and itself. -/
theorem mixed_rebuilt :
    let rules : List Value := [.list [.int 0xD800, .text []], .list [.text [65], .list [.int 0xDFFF]],
      .list [.int 0x110000, .list [.text [65], .int 0x110000]]]
    let t : RuleTable := ⟨[(0xD800, []), (65, [0xDFFF]), (0x110000, [65, 0x110000])], none⟩
    t = (after Session.empty [(.act (.newTable [] (.list rules)) : Deed Float)]).tableAt 0 ∧
      t.display = [(.text [0xD800], .text []), (.text [65], .text [0xDFFF]),
        (.int 0x110000, .list [.int 65, .int 0x110000])] ∧ Rebuilt Float t := by
  intro rules t
  have built : t = (after Session.empty [(.act (.newTable [] (.list rules)) : Deed Float)]).tableAt 0 := by decide +kernel
  exact ⟨built, rfl, reachable_rebuilt ⟨_, 0, built⟩⟩

end

end Lindenmayer.Rebuilding
