import Lindenmayer.Proofs.Displays
import Lindenmayer.Proofs.Keys
import Lindenmayer.Proofs.Requests
import Lindenmayer.Proofs.Rewriting

/-!
Systems of characters. A request's rules and seed are texts, and so are a preset's, so their symbols are
code points (`resolve_spelled`). Rewriting makes no others (`generation_spelled`), and a sequence of code
points is the text that it is read from (`toText_spelled`); so every generation of a requested system has
a text.
-/
namespace Lindenmayer.Alphabets
open Displays Rewriting

/-- All symbols of a sequence are code points. -/
def Spelled (sequence : Sequence) : Prop := ∀ s ∈ sequence, s.toNat < 0x110000

/-- All symbols of a table's replacements are code points. -/
def Lettered (t : RuleTable) : Prop := ∀ rule ∈ t.rules, Spelled rule.2

/-! ### Sequences -/

theorem ofText_spelled (s : Text) : Spelled (Sequence.ofText s) := by
  intro symbol member
  obtain ⟨c, _, rfl⟩ := List.mem_map.mp member
  rw [Conversion.ofCodePoint_toNat]
  exact c.isLt

/-- A sequence of code points has a text, and is the sequence of it. -/
theorem toText_spelled {sequence : Sequence} (spelled : Spelled sequence) :
    ∃ text, sequence.toText = .ok text ∧ Sequence.ofText text = sequence := by
  rcases toText_outcome sequence with ⟨text, read⟩ | refused
  · exact ⟨text, read, toText_ok.mp read⟩
  · obtain ⟨s, member, beyond⟩ := toText_refused.mp refused
    have inside := spelled s member
    omega

/-! ### Tables -/

theorem empty_lettered : Lettered .empty := by
  intro rule member
  cases member

theorem insert_lettered {t : RuleTable} {replacement : Sequence} (lettered : Lettered t) (spelled : Spelled replacement)
    (s : Symbol) : Lettered (t.insert s replacement) := by
  intro rule member
  rcases Keys.mem_insertRule member with rfl | former
  · exact spelled
  · exact lettered rule former

theorem ofRules_lettered {rules : List (Symbol × Sequence)} (spelled : ∀ rule ∈ rules, Spelled rule.2) :
    Lettered (RuleTable.ofRules rules) := by
  have kept (t : RuleTable) (lettered : Lettered t) : Lettered (rules.foldl (fun t r => t.insert r.1 r.2) t) := by
    induction rules generalizing t with
    | nil => exact lettered
    | cons rule rest ih =>
      refine ih (fun other member => spelled other (List.mem_cons_of_mem _ member)) _ ?_
      exact insert_lettered lettered (spelled rule List.mem_cons_self) rule.1
  exact kept .empty empty_lettered

/-! ### Generations -/

theorem produce_spelled {t : RuleTable} (lettered : Lettered t) {sequence : Sequence} (spelled : Spelled sequence) :
    Spelled (t.produce sequence) := by
  intro symbol member
  obtain ⟨s, there, inside⟩ := List.mem_flatMap.mp member
  rw [RuleTable.image, RuleTable.get?, Index.replacement?] at inside
  cases found : t.rules.find? (·.1 == s) with
  | none =>
    rw [found] at inside
    rw [List.mem_singleton.mp inside]
    exact spelled s there
  | some rule =>
    rw [found] at inside
    exact lettered rule (List.mem_of_find?_eq_some found) symbol inside

theorem generation_spelled {t : RuleTable} (lettered : Lettered t) (n : Nat) {sequence : Sequence} (spelled : Spelled sequence) :
    Spelled (t.generation n sequence) := by
  induction n generalizing sequence with
  | zero => exact spelled
  | succ n ih => exact ih (produce_spelled lettered spelled)

/-! ### Requested systems -/

/-- A system as a request finds it: in the state of its seed, made of code points, with a current index. -/
structure Requested (s : Derivation) : Prop where
  state : s.state = s.seed
  current : Current s.rules
  seed : Spelled s.seed
  rules : Lettered s.rules

/-- The system of an accepted request, a preset's or its own. -/
theorem resolve_spelled {settings : Settings} {payload : Value} {s : Derivation} {params : DrawParams Float}
    (accepted : Payload.resolve settings payload = .ok (s, params)) : Requested s := by
  obtain ⟨rules, seed, _, rfl⟩ := Requests.resolve_asks accepted
  exact {
    state := rfl
    current := ofRules_current _
    seed := ofText_spelled seed
    rules := by
      refine ofRules_lettered fun rule member => ?_
      obtain ⟨written, _, rfl⟩ := List.mem_map.mp member
      exact ofText_spelled written.2 }

end Lindenmayer.Alphabets
