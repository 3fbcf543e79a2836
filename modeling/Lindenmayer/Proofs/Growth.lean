import Lindenmayer.Proofs.Limits

/-!
How long generations get. No symbol becomes more symbols than the longest replacement has, or than itself where
it has no rule, so where no replacement is longer than `k` a sequence is at most `k ^ n` times as long after `n`
generations (`length_generation_le`). Where no replacement is empty the lengths never descend, so the last
generation is the longest and a bound on it bounds them all (`expand_grows`).
-/
namespace Lindenmayer.Growth
open Rewriting Counting Limits

/-- No replacement of a table is longer than a bound. -/
def Short (t : RuleTable) (k : Nat) : Prop := ∀ s replacement, t.get? s = some replacement → replacement.length ≤ k

/-- No replacement of a table is empty. -/
def Keeping (t : RuleTable) : Prop := ∀ s, t.get? s ≠ some []

variable {t : RuleTable} {k : Nat}

theorem length_image_le (short : Short t k) (positive : 1 ≤ k) (s : Symbol) : (t.image s).length ≤ k := by
  rw [RuleTable.image]
  cases ruled : t.get? s with
  | none => exact positive
  | some replacement => exact short s replacement ruled

theorem length_produce_le (short : Short t k) (positive : 1 ≤ k) (sequence : Sequence) :
    (t.produce sequence).length ≤ sequence.length * k := by
  induction sequence with
  | nil => exact Nat.zero_le _
  | cons s rest ih =>
    rw [RuleTable.produce, List.flatMap_cons, List.length_append, List.length_cons, Nat.succ_mul, Nat.add_comm]
    exact Nat.add_le_add ih (length_image_le short positive s)

theorem length_generation_le (short : Short t k) (positive : 1 ≤ k) (n : Nat) (sequence : Sequence) :
    (t.generation n sequence).length ≤ sequence.length * k ^ n := by
  induction n generalizing sequence with
  | zero => exact Nat.le_of_eq (Nat.mul_one _).symm
  | succ n ih =>
    calc (t.generation (n + 1) sequence).length
      _ = (t.generation n (t.produce sequence)).length := rfl
      _ ≤ (t.produce sequence).length * k ^ n := ih (t.produce sequence)
      _ ≤ sequence.length * k * k ^ n := Nat.mul_le_mul_right _ (length_produce_le short positive sequence)
      _ = sequence.length * k ^ (n + 1) := by rw [Nat.mul_assoc, ← pow_succ']

/-! ### Main statements -/

/-- The lengths of the generations of a sequence, counted and written, and what bounds them. -/
structure Grown (t : RuleTable) (sequence : Sequence) (lengths : Nat → Nat) : Prop where
  expanded : ∀ n, ∃ result after, t.expand n sequence = .ok (result, after) ∧ result.length = lengths n
  counted : ∀ n, t.expandedLength n sequence = lengths n
  bounded : ∀ k, 1 ≤ k → Short t k → ∀ n, lengths n ≤ sequence.length * k ^ n
  ascending : Keeping t → ∀ m n, m ≤ n → lengths m ≤ lengths n
  within : Keeping t → ∀ n bound, lengths n ≤ bound → ∀ m ≤ n, lengths m ≤ bound

/-- Expanding multiplies the length by the longest replacement at most in every generation, and where no rule
    deletes its symbol no generation is shorter than one before it. -/
theorem expand_grows {t : RuleTable} (current : Current t) (sequence : Sequence) : ∃ lengths, Grown t sequence lengths := by
  refine ⟨fun n => (t.generation n sequence).length, ?_⟩
  exact {
    expanded := fun n => by
      obtain ⟨after, expanded, _⟩ := expand_total_correct current n sequence
      exact ⟨_, after, expanded, rfl⟩
    counted := fun n => expandedLength_total_correct t n sequence
    bounded := fun k positive short n => length_generation_le short positive n sequence
    ascending := fun keeping m n le => generation_length_mono keeping sequence le
    within := fun keeping n bound last m le => (generation_length_mono keeping sequence le).trans last }

/-- A table that remembers its index, with replacements of up to three symbols and none that is empty. -/
theorem branches_grow :
    let rules : List (Symbol × Sequence) := [(70, [70, 43, 88]), (88, [45])]
    let t : RuleTable := ⟨rules, some (Index.ofRules rules)⟩
    Current t ∧ Short t 3 ∧ Keeping t ∧ ∃ lengths, Grown t [70, 88, 90] lengths := by
  intro rules t
  have current : Current t := current_indexed rules
  have ruled {s : Symbol} {replacement : Sequence} (found : t.get? s = some replacement) :
      replacement = [70, 43, 88] ∨ replacement = [45] := by
    obtain ⟨rule, standing, rfl⟩ := Option.map_eq_some_iff.mp found
    have member : rule ∈ rules := List.mem_of_find?_eq_some standing
    rcases List.mem_cons.mp member with rfl | member
    · exact .inl rfl
    · exact .inr (by rw [List.mem_singleton.mp member])
  refine ⟨current, fun s replacement found => ?_, fun s found => ?_, expand_grows current [70, 88, 90]⟩
  · rcases ruled found with rfl | rfl
    · decide
    · decide
  · rcases ruled found with impossible | impossible
    · cases impossible
    · cases impossible

end Lindenmayer.Growth
