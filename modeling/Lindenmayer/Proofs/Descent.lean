import Lindenmayer.Proofs.Rewriting

/-!
Where the symbols of a generation come from. A symbol stands in the generation after so many just if a chain
of symbols as long leads to it from one of the sequence, in which each becomes the next (`mem_generation`).
So a symbol that is deleted and that no replacement writes is gone after one generation (`deleted_gone`), and
nothing appears that stands neither in the sequence nor in a replacement (`generation_known`).
-/
namespace Lindenmayer.Descent
open Rewriting

/-- A symbol stands in what another becomes: in its replacement, or as itself where there is none. -/
inductive Becomes (t : RuleTable) (a b : Symbol) : Prop where
  | replaced {replacement : Sequence} (ruled : t.get? a = some replacement) (member : b ∈ replacement)
  | kept (unruled : t.get? a = none) (same : b = a)

/-- Symbols one after the other, from the first up to the one at `n`, in which each becomes the next. -/
def Chain (t : RuleTable) (n : Nat) (a : Nat → Symbol) : Prop := ∀ i < n, Becomes t (a i) (a (i + 1))

variable {t : RuleTable}

theorem mem_image {a b : Symbol} : b ∈ t.image a ↔ Becomes t a b := by
  rw [RuleTable.image]
  constructor
  · intro member
    cases ruled : t.get? a with
    | some replacement =>
      rw [ruled] at member
      exact .replaced ruled member
    | none =>
      rw [ruled] at member
      exact .kept ruled (List.mem_singleton.mp member)
  · intro becomes
    cases becomes with
    | replaced ruled member =>
      rw [ruled]
      exact member
    | kept unruled same =>
      rw [unruled]
      exact List.mem_singleton.mpr same

theorem mem_produce {sequence : Sequence} {b : Symbol} : b ∈ t.produce sequence ↔ ∃ a ∈ sequence, Becomes t a b := by
  simp only [RuleTable.produce, List.mem_flatMap, mem_image]

theorem chain_cons {n : Nat} {a : Nat → Symbol} {first : Symbol} (becomes : Becomes t first (a 0)) (chain : Chain t n a) :
    Chain t (n + 1) (fun i => i.casesOn first a) := by
  intro i before
  cases i with
  | zero => exact becomes
  | succ i => exact chain i (Nat.lt_of_succ_lt_succ before)

theorem chain_tail {n : Nat} {a : Nat → Symbol} (chain : Chain t (n + 1) a) : Chain t n (fun i => a (i + 1)) :=
  fun i before => chain (i + 1) (Nat.succ_lt_succ before)

theorem mem_generation {n : Nat} {sequence : Sequence} {x : Symbol} :
    x ∈ t.generation n sequence ↔ ∃ a : Nat → Symbol, a 0 ∈ sequence ∧ a n = x ∧ Chain t n a := by
  induction n generalizing sequence with
  | zero =>
    constructor
    · intro member
      exact ⟨fun _ => x, member, rfl, fun i before => absurd before (Nat.not_lt_zero i)⟩
    · rintro ⟨a, member, rfl, _⟩
      exact member
  | succ n ih =>
    rw [RuleTable.generation, ih]
    constructor
    · rintro ⟨a, member, last, chain⟩
      obtain ⟨first, standing, becomes⟩ := mem_produce.mp member
      exact ⟨fun i => i.casesOn first a, standing, last, chain_cons becomes chain⟩
    · rintro ⟨a, standing, last, chain⟩
      exact ⟨fun i => a (i + 1), mem_produce.mpr ⟨a 0, standing, chain 0 (Nat.succ_pos n)⟩, last, chain_tail chain⟩

/-- Some replacement writes a symbol. -/
def Written (t : RuleTable) (x : Symbol) : Prop := ∃ a replacement, t.get? a = some replacement ∧ x ∈ replacement

theorem generation_known {n : Nat} {sequence : Sequence} {x : Symbol} (member : x ∈ t.generation n sequence) :
    x ∈ sequence ∨ Written t x := by
  obtain ⟨a, first, rfl, chain⟩ := mem_generation.mp member
  -- Every symbol of the chain is known, from the first one on.
  have known (i : Nat) (before : i ≤ n) : a i ∈ sequence ∨ Written t (a i) := by
    induction i with
    | zero => exact .inl first
    | succ i ih =>
      cases chain i before with
      | replaced ruled member => exact .inr ⟨_, _, ruled, member⟩
      | kept unruled same => exact same ▸ ih (Nat.le_of_succ_le before)
  exact known n (Nat.le_refl n)

theorem deleted_gone {n : Nat} {x : Symbol} (later : 1 ≤ n) (deleted : t.get? x = some []) (unwritten : ¬ Written t x)
    (sequence : Sequence) : x ∉ t.generation n sequence := by
  intro member
  obtain ⟨n, rfl⟩ := Nat.exists_eq_add_of_le' later
  obtain ⟨a, _, last, chain⟩ := mem_generation.mp member
  have becomes := chain n (Nat.lt_succ_self n)
  rw [last] at becomes
  cases becomes with
  | replaced ruled member => exact unwritten ⟨_, _, ruled, member⟩
  | kept unruled same =>
    rw [← same, deleted] at unruled
    cases unruled

/-! ### Main statements -/

/-- What stands in a sequence after so many generations. -/
structure Descended (t : RuleTable) (sequence : Sequence) (n : Nat) (result : Sequence) : Prop where
  chains : ∀ x, x ∈ result ↔ ∃ a : Nat → Symbol, a 0 ∈ sequence ∧ a n = x ∧ Chain t n a
  gone : ∀ x, t.get? x = some [] → ¬ Written t x → 1 ≤ n → x ∉ result
  known : ∀ x ∈ result, x ∈ sequence ∨ Written t x

/-- Expanding gives the symbols to which a chain leads in as many steps, whatever cycles and deletions the rules
    have. -/
theorem expand_descends {t : RuleTable} (current : Current t) (sequence : Sequence) (n : Nat) :
    ∃ result after, t.expand n sequence = .ok (result, after) ∧ Descended t sequence n result := by
  obtain ⟨after, expanded, _⟩ := expand_total_correct current n sequence
  exact ⟨_, after, expanded, {
    chains := fun _ => mem_generation
    gone := fun _ deleted unwritten later => deleted_gone later deleted unwritten sequence
    known := fun _ => generation_known }⟩

/-- Two symbols that become each other, and one that is deleted. -/
theorem cycle_descends :
    let rules : List (Symbol × Sequence) := [(65, [66]), (66, [65, 43, 65]), (88, [])]
    let t : RuleTable := ⟨rules, some (Index.ofRules rules)⟩
    Current t ∧ ∃ result after, t.expand 3 [88, 65] = .ok (result, after) ∧ Descended t [88, 65] 3 result := by
  intro rules t
  have current : Current t := current_indexed rules
  exact ⟨current, expand_descends current [88, 65] 3⟩

end Lindenmayer.Descent
