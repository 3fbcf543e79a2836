import Mathlib.Data.List.Induction
import Mathlib.Data.List.Nodup
import Lindenmayer.Proofs.Conversion
import Lindenmayer.RuleTable.Basic

/-!
Rules as an ordered map. Setting a rule keeps the place of its key or puts a new key at the end, and changes the
replacement of this key alone (`keys_insertRule`, `replacement?_insertRule`); removing one takes its key out and
leaves the others in their order (`keys_without`, `replacement?_without`). Where no key is there twice a rule
stands in the list just if it is found (`replacement?_mem`). A table is read and changed so by any values that name
symbols, and by no others (`get_ok`, `set_ok`, `erase_ok`).
-/
namespace Lindenmayer.Keys
open Outcomes Conversion RuleTable Index

/-- Rules without that of a symbol. -/
def without (s : Symbol) (rules : List (Symbol × Sequence)) : List (Symbol × Sequence) := rules.filter (·.1 != s)

variable {rules : List (Symbol × Sequence)} {s : Symbol} {replacement : Sequence}

theorem replacement?_cons (rule : Symbol × Sequence) (rules : List (Symbol × Sequence)) (k : Symbol) :
    replacement? (rule :: rules) k = if rule.1 = k then some rule.2 else replacement? rules k := by
  rw [replacement?, replacement?, List.find?_cons]
  by_cases same : rule.1 = k
  · simp [same]
  · simp [same, beq_eq_false_iff_ne.mpr same]

section
variable {κ α β : Type} [DecidableEq κ] {entries : List (κ × α)} {key : κ} {a : α}

theorem keys_insertRule (key : κ) (a : α) (entries : List (κ × α)) :
    (insertRule key a entries).map Prod.fst =
      if key ∈ entries.map Prod.fst then entries.map Prod.fst else entries.map Prod.fst ++ [key] := by
  induction entries with
  | nil => rfl
  | cons entry rest ih =>
    obtain ⟨t, former⟩ := entry
    rw [insertRule]
    by_cases same : t = key
    · simp [same]
    · rw [if_neg same, List.map_cons, ih]
      by_cases member : key ∈ rest.map Prod.fst
      · simp only [member, List.map_cons, List.mem_cons, or_true, ↓reduceIte]
      · simp only [member, List.map_cons, List.mem_cons, Ne.symm same, or_false, ↓reduceIte, List.cons_append]

theorem mem_keys_insertRule {k : κ} :
    k ∈ (insertRule key a entries).map Prod.fst ↔ k ∈ entries.map Prod.fst ∨ k = key := by
  rw [keys_insertRule]
  by_cases member : key ∈ entries.map Prod.fst
  · rw [if_pos member]
    exact ⟨.inl, fun found => found.elim id fun same => same ▸ member⟩
  · rw [if_neg member, List.mem_append, List.mem_singleton]

theorem nodup_insertRule (distinct : (entries.map Prod.fst).Nodup) : ((insertRule key a entries).map Prod.fst).Nodup := by
  rw [keys_insertRule]
  by_cases member : key ∈ entries.map Prod.fst
  · rwa [if_pos member]
  · rw [if_neg member]
    exact List.nodup_append.mpr ⟨distinct, List.nodup_singleton key, fun k former other last same => member <| by
      rwa [← List.mem_singleton.mp last, ← same]⟩

/-- Where a key is there, and none is there twice, its entry alone is another. -/
theorem insertRule_present (distinct : (entries.map Prod.fst).Nodup) (member : key ∈ entries.map Prod.fst) :
    insertRule key a entries = entries.map fun e => if e.1 = key then (key, a) else e := by
  induction entries with
  | nil => cases member
  | cons entry rest ih =>
    obtain ⟨first, later⟩ := List.nodup_cons.mp distinct
    rw [insertRule, List.map_cons]
    by_cases same : entry.1 = key
    · have others : rest.map (fun e => if e.1 = key then (key, a) else e) = rest := by
        refine (List.map_congr_left fun e member => if_neg fun again => first ?_).trans (List.map_id rest)
        rw [same, ← again]
        exact List.mem_map_of_mem member
      rw [if_pos same, if_pos same, others]
    · rw [if_neg same, if_neg same, ih later ((List.mem_cons.mp member).resolve_left (Ne.symm same))]

theorem find?_insertRule [BEq κ] [LawfulBEq κ] (key : κ) (a : α) (entries : List (κ × α)) (k : κ) :
    (insertRule key a entries).find? (·.1 == k) = if key = k then some (key, a) else entries.find? (·.1 == k) := by
  induction entries with
  | nil =>
    rw [insertRule, List.find?_cons]
    by_cases here : key = k
    · simp [here]
    · simp [here, beq_eq_false_iff_ne.mpr here]
  | cons entry rest ih =>
    obtain ⟨t, former⟩ := entry
    rw [insertRule]
    by_cases same : t = key
    · rw [if_pos same, List.find?_cons, List.find?_cons, same]
      by_cases here : key = k
      · simp [here]
      · simp [here, beq_eq_false_iff_ne.mpr here]
    · rw [if_neg same, List.find?_cons, List.find?_cons, ih]
      by_cases here : t = k
      · have other : key ≠ k := fun found => same (here.trans found.symm)
        simp [here, other]
      · simp [beq_eq_false_iff_ne.mpr here]

/-- To put back what is found changes nothing. -/
theorem insertRule_found [BEq κ] [LawfulBEq κ] {entry : κ × α} (found : entries.find? (·.1 == key) = some entry) :
    insertRule key entry.2 entries = entries := by
  induction entries with
  | nil => cases found
  | cons first rest ih =>
    rw [insertRule]
    rw [List.find?_cons] at found
    by_cases same : first.1 = key
    · rw [beq_iff_eq.mpr same] at found
      cases found
      rw [if_pos same, ← same]
    · rw [beq_eq_false_iff_ne.mpr same] at found
      rw [if_neg same, ih found]

theorem map_insertRule (f : α → β) (key : κ) (a : α) (entries : List (κ × α)) :
    (insertRule key a entries).map (fun e => (e.1, f e.2)) = insertRule key (f a) (entries.map fun e => (e.1, f e.2)) := by
  induction entries with
  | nil => rfl
  | cons entry rest ih =>
    rw [insertRule, List.map_cons, insertRule]
    by_cases same : entry.1 = key
    · rw [if_pos same, if_pos same, List.map_cons]
    · rw [if_neg same, if_neg same, List.map_cons, ih]

theorem mem_insertRule {entry : κ × α} (member : entry ∈ insertRule key a entries) : entry = (key, a) ∨ entry ∈ entries := by
  induction entries with
  | nil => exact .inl (List.mem_singleton.mp member)
  | cons former rest ih =>
    obtain ⟨t, kept⟩ := former
    rw [insertRule] at member
    by_cases same : t = key
    · rw [if_pos same] at member
      exact (List.mem_cons.mp member).imp_right (List.mem_cons_of_mem _)
    · rw [if_neg same] at member
      rcases List.mem_cons.mp member with rfl | later
      · exact .inr List.mem_cons_self
      · exact (ih later).imp_right (List.mem_cons_of_mem _)

theorem insertRule_new (absent : key ∉ entries.map Prod.fst) : insertRule key a entries = entries ++ [(key, a)] := by
  induction entries with
  | nil => rfl
  | cons entry rest ih =>
    obtain ⟨other, later⟩ := not_or.mp (mt List.mem_cons.mpr absent)
    rw [insertRule, if_neg (Ne.symm other), ih later, List.cons_append]

end

theorem replacement?_insertRule (s : Symbol) (replacement : Sequence) (rules : List (Symbol × Sequence)) (k : Symbol) :
    replacement? (insertRule s replacement rules) k = if s = k then some replacement else replacement? rules k := by
  rw [replacement?, replacement?, find?_insertRule]
  by_cases here : s = k
  · rw [if_pos here, if_pos here]
    rfl
  · rw [if_neg here, if_neg here]

theorem keys_without (s : Symbol) (rules : List (Symbol × Sequence)) :
    (without s rules).map Prod.fst = (rules.map Prod.fst).filter (· != s) := by
  rw [without, List.filter_map]
  rfl

theorem replacement?_without (s : Symbol) (rules : List (Symbol × Sequence)) (k : Symbol) :
    replacement? (without s rules) k = if s = k then none else replacement? rules k := by
  induction rules with
  | nil => exact (ite_self none).symm
  | cons rule rest ih =>
    rw [without] at ih ⊢
    rw [List.filter_cons, replacement?_cons]
    by_cases same : rule.1 = s
    · rw [if_neg (by simp [same]), ih, same]
      by_cases here : s = k
      · rw [if_pos here, if_pos here]
      · rw [if_neg here, if_neg here, if_neg here]
    · rw [if_pos (by simp [same]), replacement?_cons, ih]
      by_cases here : rule.1 = k
      · have other : s ≠ k := fun found => same (here.trans found.symm)
        rw [if_pos here, if_neg other, if_pos here]
      · rw [if_neg here, if_neg here]

theorem mem_keys : s ∈ rules.map Prod.fst ↔ ∃ replacement, replacement? rules s = some replacement := by
  induction rules with
  | nil => simp [replacement?]
  | cons rule rest ih =>
    rw [List.map_cons, List.mem_cons, ih, replacement?_cons]
    by_cases same : rule.1 = s
    · simp [same]
    · simp [same, Ne.symm same]

/-- Where no key is there twice a rule is found just if it stands in the list. -/
theorem replacement?_mem (distinct : (rules.map Prod.fst).Nodup) :
    replacement? rules s = some replacement ↔ (s, replacement) ∈ rules := by
  induction rules with
  | nil => simp [replacement?]
  | cons rule rest ih =>
    obtain ⟨first, later⟩ := List.nodup_cons.mp distinct
    rw [replacement?_cons, List.mem_cons]
    by_cases same : rule.1 = s
    · have behind : (s, replacement) ∉ rest := fun member => first (same ▸ List.mem_map_of_mem member)
      rw [if_pos same, Option.some_inj, or_iff_left behind, ← same]
      exact ⟨fun found => by rw [← found], fun found => by rw [← found]⟩
    · have other : (s, replacement) ≠ rule := fun found => same (by rw [← found])
      rw [if_neg same, ih later, or_iff_right other]

theorem without_absent (absent : s ∉ rules.map Prod.fst) : without s rules = rules := by
  refine List.filter_eq_self.mpr fun rule member => bne_iff_ne.mpr fun same => absent ?_
  exact same ▸ List.mem_map_of_mem member

/-- Rules of different symbols, set one after the other, stay as they are. -/
theorem ofRules_distinct {rules : List (Symbol × Sequence)} (distinct : (rules.map Prod.fst).Nodup) :
    RuleTable.ofRules rules = ⟨rules, none⟩ := by
  induction rules using List.reverseRecOn with
  | nil => rfl
  | append_singleton before rule ih =>
    rw [List.map_append, List.nodup_append] at distinct
    have absent : rule.1 ∉ before.map Prod.fst := fun member => distinct.2.2 rule.1 member rule.1 List.mem_cons_self rfl
    have set_before : RuleTable.ofRules before = ⟨before, none⟩ := ih distinct.1
    rw [RuleTable.ofRules] at set_before ⊢
    rw [List.foldl_append, set_before]
    exact congrArg (RuleTable.mk · none) (insertRule_new absent)

/-! ### Access by values -/

variable {t : RuleTable}

theorem set_ok {after : RuleTable} {key given : Value} : t.set key given = .ok after ↔
    ∃ s sequence, Symbol.ofValue key = .ok s ∧ Sequence.ofValue given = .ok sequence ∧ after = t.insert s sequence := by
  constructor
  · intro done
    obtain ⟨s, named, done⟩ := bind_ok.mp done
    obtain ⟨sequence, spelled, done⟩ := bind_ok.mp done
    cases done
    exact ⟨s, sequence, named, spelled, rfl⟩
  · rintro ⟨s, sequence, named, spelled, rfl⟩
    exact bind_ok.mpr ⟨s, named, bind_ok.mpr ⟨sequence, spelled, rfl⟩⟩

theorem erase_ok {after : RuleTable} {key : Value} :
    t.erase key = .ok after ↔ ∃ s ∈ t.keys, Symbol.ofValue key = .ok s ∧ after = t.remove s := by
  constructor
  · intro done
    obtain ⟨s, named, done⟩ := bind_ok.mp done
    cases ruled : t.get? s with
    | none =>
      rw [ruled] at done
      cases done
    | some replacement =>
      rw [ruled] at done
      cases done
      exact ⟨s, mem_keys.mpr ⟨replacement, ruled⟩, named, rfl⟩
  · rintro ⟨s, member, named, rfl⟩
    obtain ⟨replacement, ruled⟩ := mem_keys.mp member
    refine bind_ok.mpr ⟨s, named, ?_⟩
    have there : t.get? s = some replacement := ruled
    rw [there]
    rfl

theorem get_ok {key : Value} :
    t.get key = .ok replacement ↔ ∃ s, Names key s ∧ t.get? s = some replacement := by
  constructor
  · intro got
    obtain ⟨s, named, got⟩ := bind_ok.mp got
    cases ruled : t.get? s with
    | none =>
      rw [ruled] at got
      cases got
    | some found =>
      rw [ruled] at got
      cases got
      exact ⟨s, symbol_names.mp named, ruled⟩
  · rintro ⟨s, names, ruled⟩
    refine bind_ok.mpr ⟨s, symbol_names.mpr names, ?_⟩
    rw [ruled]
    rfl

/-- What names no symbol has no rule, but for what messages cannot show. -/
theorem contains_unnamed {key : Value} (unnamed : ∀ s, ¬ Names key s) :
    t.contains key = if key.showable then .ok false else .error .tooManyDigits := by
  obtain ⟨failure, failed, rejected⟩ := symbol_unnamed unnamed
  rw [contains, failed, Failure.showing]
  cases key.showable with
  | true =>
    dsimp only
    rw [if_pos rfl, if_pos rfl, if_pos rejected]
  | false => rfl

theorem contains_got {key : Value} : t.contains key = .ok true ↔ ∃ replacement, t.get key = .ok replacement := by
  simp only [get_ok]
  cases named : Symbol.ofValue key with
  | error failure =>
    have unnamed (s : Symbol) : ¬ Names key s := fun names => by
      rw [symbol_names.mpr names] at named
      cases named
    rw [contains_unnamed unnamed]
    refine ⟨fun there => ?_, fun ⟨_, s, names, _⟩ => absurd names (unnamed s)⟩
    cases shown : key.showable with
    | true =>
      rw [shown] at there
      cases there
    | false =>
      rw [shown] at there
      cases there
  | ok s =>
    rw [contains, named]
    dsimp only
    rw [Except.ok.injEq, Option.isSome_iff_exists]
    constructor
    · rintro ⟨replacement, ruled⟩
      exact ⟨replacement, s, symbol_names.mp named, ruled⟩
    · rintro ⟨replacement, other, names, ruled⟩
      cases named.symm.trans (symbol_names.mpr names)
      exact ⟨replacement, ruled⟩

end Lindenmayer.Keys
