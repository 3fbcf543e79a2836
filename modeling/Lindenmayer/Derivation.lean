import Lindenmayer.Expansion

/-!
Systems: rules, a seed that never changes, and a current state. `Derivation.evaluate` goes on from the
state, `Derivation.reset` goes back to the seed.
-/
namespace Lindenmayer

/-- A system on its way. -/
structure Derivation where
  rules : RuleTable
  seed : Sequence
  state : Sequence
deriving DecidableEq, Repr, Inhabited

namespace Derivation

/-- The system with a table and a seed, in the state of the seed. -/
def start (rules : RuleTable) (seed : Sequence) : Derivation := ⟨rules, seed, seed⟩

/-- The system that a value of rules and one of a seed stand for. -/
def ofValues (rules seed : Value) : Except Failure Derivation := do
  let table ← RuleTable.ofValue rules
  let sequence ← Sequence.ofValue seed
  return start table sequence

/-- The system in the state of its seed. -/
def reset (s : Derivation) : Derivation := { s with state := s.seed }

/-- The system so many generations further. -/
def advance (s : Derivation) (generations : Nat) : Except Failure Derivation := do
  let (state, rules) ← s.rules.expand generations s.state
  return { s with rules, state }

/-- The system a number of generations further that comes as a value. -/
def evaluate (s : Derivation) (generations : Value) : Except Failure Derivation := do
  s.advance (← generationCount generations)

/-- The text of the state. -/
def stateText (s : Derivation) : Except Failure Text := s.state.toText

/-- A system as messages show it. -/
def shown (s : Derivation) : String :=
  "LSystem(" ++ s.rules.shownRules ++ ", " ++ (Sequence.display s.seed).shown ++ ")"

end Derivation

end Lindenmayer
