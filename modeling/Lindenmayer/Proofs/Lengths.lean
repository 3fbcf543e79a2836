import Lindenmayer.Proofs.Counting
import Lindenmayer.Proofs.Rewriting

/-!
Lengths that are counted and sequences that are written. Counting and expanding look at the number of
generations, the rules and the sequence in this order, so they fail alike (`expandValue_rounds`,
`expandedLengthValue_counts`); where nothing is wrong both succeed, and the number that is counted is the
length of the sequence that is written (`expandedLength_expand`).
-/
namespace Lindenmayer.Lengths
open Outcomes Rewriting Counting

/-- Expanding a value gives rounds of the rules unless one of the three values is rejected; the first that
    is rejected gives the failure. -/
theorem expandValue_rounds (sequence rules generations : Value) :
    expandValue sequence rules generations = do
      let n ← generationCount generations
      let t ← RuleTable.ofValue rules
      let start ← Sequence.ofValue sequence
      return t.generation n start := by
  rw [expandValue]
  cases generationCount generations with
  | error failure => rfl
  | ok n =>
    cases built : RuleTable.ofValue rules with
    | error failure => rfl
    | ok t =>
      cases Sequence.ofValue sequence with
      | error failure => rfl
      | ok start =>
        obtain ⟨after, expanded, _⟩ := expand_total_correct (ofValue_current built) n start
        change (do return (← t.expand n start).1) = Except.ok (t.generation n start)
        rw [expanded]
        rfl

/-- Counting for values gives the length of those rounds, with the same failures. -/
theorem expandedLengthValue_counts (sequence rules generations : Value) :
    expandedLengthValue sequence rules generations = List.length <$> do
      let n ← generationCount generations
      let t ← RuleTable.ofValue rules
      let start ← Sequence.ofValue sequence
      return t.generation n start := by
  rw [expandedLengthValue]
  cases generationCount generations with
  | error failure => rfl
  | ok n =>
    cases RuleTable.ofValue rules with
    | error failure => rfl
    | ok t =>
      cases Sequence.ofValue sequence with
      | error failure => rfl
      | ok start => exact congrArg Except.ok (expandedLength_total_correct t n start)

/-- Counting fails as expanding does, on the number of generations first, then on the rules, then on the
    sequence, and otherwise gives the length of what expanding gives. So it is for values of rules, and for
    a table that is there already, whatever index it remembers. -/
theorem expandedLength_expand (sequence rules generations : Value) :
    expandedLengthValue sequence rules generations = List.length <$> expandValue sequence rules generations ∧
      (expandValue sequence rules generations = do
        let n ← generationCount generations
        let t ← RuleTable.ofValue rules
        let start ← Sequence.ofValue sequence
        return t.generation n start) ∧
      ∀ t, Current t → (do
          let n ← generationCount generations
          let start ← Sequence.ofValue sequence
          return t.expandedLength n start) = List.length <$> do
        let n ← generationCount generations
        let start ← Sequence.ofValue sequence
        return (← t.expand n start).1 := by
  refine ⟨?_, expandValue_rounds sequence rules generations, fun t current => ?_⟩
  · rw [expandValue_rounds, expandedLengthValue_counts]
  · cases generationCount generations with
    | error failure => rfl
    | ok n =>
      cases Sequence.ofValue sequence with
      | error failure => rfl
      | ok start =>
        obtain ⟨after, expanded, _⟩ := expand_total_correct current n start
        change Except.ok (t.expandedLength n start) = List.length <$> do return (← t.expand n start).1
        rw [expanded, expandedLength_total_correct]
        rfl

end Lindenmayer.Lengths
