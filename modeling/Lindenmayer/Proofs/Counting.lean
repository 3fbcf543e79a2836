import Mathlib.Data.Multiset.Bind
import Mathlib.Algebra.Order.Group.Multiset
import Lindenmayer.Expansion

/-!
Counting symbols instead of writing them. A census stands for the multiset of the symbols that it
counts (`bag`), in whatever order its entries are. The next census stands for the multiset of the next
generation (`bag_next`), so after any number of generations its total is the length of the sequence
that expanding writes (`expandedLength_total_correct`).
-/
namespace Lindenmayer.Counting
open Census

/-- The symbols that a census counts. -/
def bag : Census → Multiset Symbol
  | [] => 0
  | (s, n) :: rest => n • {s} + bag rest

/-- What one symbol becomes, counted, by the censuses of replacements. -/
def imageBag (produced : List (Symbol × Census)) (s : Symbol) : Multiset Symbol :=
  match produced.find? (·.1 == s) with
  | some (_, found) => bag found
  | none => {s}

theorem total_card (counts : Census) : total counts = (bag counts).card := by
  induction counts with
  | nil => rfl
  | cons entry rest ih =>
    have step : total (entry :: rest) = entry.2 + total rest := rfl
    rw [step, ih, bag, Multiset.card_add, Multiset.card_nsmul, Multiset.card_singleton]
    simp

theorem bag_add (s : Symbol) (n : Nat) (counts : Census) : bag (add s n counts) = n • {s} + bag counts := by
  induction counts with
  | nil => rfl
  | cons entry rest ih =>
    rw [add]
    by_cases same : entry.1 = s
    · rw [if_pos same, bag, bag, same, Nat.add_comm entry.2 n, add_nsmul, add_assoc]
    · rw [if_neg same, bag, ih, bag, add_left_comm]

theorem bag_addAll (times : Nat) (found counts : Census) : bag (addAll times found counts) = times • bag found + bag counts := by
  induction found generalizing counts with
  | nil => simp [addAll, bag]
  | cons entry rest ih =>
    have step : addAll times (entry :: rest) counts = addAll times rest (add entry.1 (times * entry.2) counts) := rfl
    rw [step, ih, bag_add, bag, nsmul_add, mul_nsmul']
    exact add_left_comm _ _ _ |>.trans (add_assoc _ _ _).symm

theorem bag_ofSequence (sequence : Sequence) : bag (ofSequence sequence) = (sequence : Multiset Symbol) := by
  have counted (counts : Census) : bag (sequence.foldl (fun counts s => add s 1 counts) counts) =
      bag counts + (sequence : Multiset Symbol) := by
    induction sequence generalizing counts with
    | nil => simp
    | cons s rest ih =>
      rw [List.foldl_cons, ih, bag_add, one_nsmul, ← Multiset.cons_coe, ← Multiset.singleton_add,
        add_comm {s} (bag counts), add_assoc]
  rw [ofSequence, counted]
  exact zero_add _

private theorem bind_copies (n : Nat) (s : Symbol) (f : Symbol → Multiset Symbol) :
    (n • ({s} : Multiset Symbol)).bind f = n • f s := by
  induction n with
  | zero => simp
  | succ n ih => rw [succ_nsmul, Multiset.add_bind, ih, Multiset.singleton_bind, succ_nsmul]

/-- The next census counts what each counted symbol becomes. -/
theorem bag_next (produced : List (Symbol × Census)) (counts : Census) :
    bag (next produced counts) = (bag counts).bind (imageBag produced) := by
  have counted (sum : Census) : bag (counts.foldl (fun sum c =>
      match produced.find? (·.1 == c.1) with
      | some (_, found) => addAll c.2 found sum
      | none => add c.1 c.2 sum) sum) = bag sum + (bag counts).bind (imageBag produced) := by
    induction counts generalizing sum with
    | nil => simp [bag]
    | cons entry rest ih =>
      rw [List.foldl_cons, ih, bag, Multiset.add_bind, bind_copies, ← add_assoc]
      congr 1
      rw [imageBag]
      cases produced.find? (·.1 == entry.1) with
      | none => rw [bag_add, add_comm]
      | some found => rw [bag_addAll, add_comm]
  exact (counted []).trans (zero_add _)

/-- The censuses of a table's replacements count what its symbols become. -/
theorem imageBag_image (t : RuleTable) (s : Symbol) :
    imageBag (t.rules.map fun r => (r.1, ofSequence r.2)) s = (t.image s : Multiset Symbol) := by
  have looked : (t.rules.map fun r => (r.1, ofSequence r.2)).find? (·.1 == s) =
      (t.rules.find? (·.1 == s)).map fun r => (r.1, ofSequence r.2) := List.find?_map ..
  rw [imageBag, looked, RuleTable.image, RuleTable.get?, Index.replacement?]
  cases t.rules.find? (·.1 == s) with
  | none => rfl
  | some rule => exact bag_ofSequence rule.2

/-- A census of a sequence becomes, after so many generations, one of the expanded sequence. -/
theorem bag_generation (t : RuleTable) (n : Nat) {counts : Census} {sequence : Sequence}
    (counted : bag counts = (sequence : Multiset Symbol)) :
    bag (Census.generation (t.rules.map fun r => (r.1, ofSequence r.2)) n counts) = (t.generation n sequence : Multiset Symbol) := by
  induction n generalizing counts sequence with
  | zero => exact counted
  | succ n ih =>
    refine ih ?_
    have each : imageBag (t.rules.map fun r => (r.1, ofSequence r.2)) = fun s => (t.image s : Multiset Symbol) :=
      funext (imageBag_image t)
    rw [bag_next, counted, each, RuleTable.produce]
    exact Multiset.coe_bind sequence t.image

/-- The length that counting gives is the length of the sequence that expanding gives. -/
theorem expandedLength_total_correct (t : RuleTable) (n : Nat) (sequence : Sequence) :
    t.expandedLength n sequence = (t.generation n sequence).length := by
  rw [RuleTable.expandedLength, total_card, bag_generation t n (bag_ofSequence sequence), Multiset.coe_card]

end Lindenmayer.Counting
