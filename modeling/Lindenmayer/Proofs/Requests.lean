import Lindenmayer.Proofs.Outcomes
import Lindenmayer.Service.Payload

/-!
The system that a request asks for, in characters. A payload names a preset, or brings rules and a seed of its own
(`Asks`). Either way the system that it is resolved to starts from the symbols of the seed's characters, with the
table of the rules between characters (`resolve_asks`).
-/
namespace Lindenmayer.Requests
open Outcomes

/-- The fields of an object that gives rules between characters. -/
def fieldsOf (rules : List (CodePoint × Text)) : List (Text × Value) := rules.map fun r => ([r.1], .text r.2)

/-- The rules and the seed that a payload asks for: those of the preset that it names, or its own. -/
inductive Asks (payload : Value) : List (CodePoint × Text) → Text → Prop where
  | preset {name : Value} {p : Preset Float} (named : payload.field? "preset" = some name) (given : name.truthy = true)
      (found : Preset.find? name = some p) :
    Asks payload (p.rules.map fun r => (Text.ofChar r.1, Text.ofString r.2)) (Text.ofString p.seed)
  | own {rules : List (CodePoint × Text)} {seed : Text}
      (unnamed : ∀ name, payload.field? "preset" = some name → name.truthy = false)
      (ruled : payload.field? "rules" = some (.object (fieldsOf rules)))
      (seeded : payload.field? "seed" = some (.text seed)) (given : seed ≠ []) :
    Asks payload rules seed

/-- The table of rules between characters. -/
def table (rules : List (CodePoint × Text)) : RuleTable :=
  RuleTable.ofRules (rules.map fun r => (Symbol.ofCodePoint r.1, Sequence.ofText r.2))

/-! ### Characters of strings -/

theorem ofCodePoint_ofChar (c : Char) : Symbol.ofCodePoint (Text.ofChar c) = Symbol.ofChar c := UInt32.ofNat_toNat

theorem ofText_ofString (s : String) : Sequence.ofText (Text.ofString s) = Sequence.ofString s := by
  rw [Sequence.ofText, Text.ofString, List.map_map]
  exact List.map_congr_left fun c _ => ofCodePoint_ofChar c

/-! ### Systems of payloads -/

/-- Fields with texts make a table just if their names are characters, and then the table of those rules. -/
theorem fields_rules {fields : List (Text × Value)} (texts : (fields.all fun f => Payload.isText f.2) = true)
    {t after : RuleTable} (done : t.insertAll (fields.map fun f => .list [.text f.1, f.2]) = .ok after) :
    ∃ rules, fields = fieldsOf rules ∧
      after = (rules.map fun r => (Symbol.ofCodePoint r.1, Sequence.ofText r.2)).foldl (fun t r => t.insert r.1 r.2) t := by
  induction fields generalizing t with
  | nil =>
    cases done
    exact ⟨[], rfl, rfl⟩
  | cons field rest ih =>
    obtain ⟨name, value⟩ := field
    obtain ⟨first, others⟩ := Bool.and_eq_true_iff.mp (List.all_cons ▸ texts)
    obtain ⟨replacement, rfl⟩ : ∃ text, value = .text text := by
      cases value with
      | text text => exact ⟨text, rfl⟩
      | _ => cases first
    obtain ⟨⟨key, given⟩, taken, done⟩ := bind_ok.mp done
    cases taken
    obtain ⟨next, inserted, done⟩ := bind_ok.mp done
    obtain ⟨symbol, named, inserted⟩ := bind_ok.mp inserted
    obtain ⟨sequence, read, inserted⟩ := bind_ok.mp inserted
    cases read
    cases inserted
    obtain ⟨c, rfl, rfl⟩ : ∃ c, name = [c] ∧ Symbol.ofCodePoint c = symbol := by
      match name, named with
      | [c], named =>
        cases named
        exact ⟨c, rfl, rfl⟩
    obtain ⟨rules, rfl, rfl⟩ := ih others done
    exact ⟨(c, replacement) :: rules, rfl, rfl⟩

theorem preset_table (p : Preset Float) :
    p.table = table (p.rules.map fun r => (Text.ofChar r.1, Text.ofString r.2)) := by
  rw [Preset.table, table, List.map_map]
  refine congrArg RuleTable.ofRules (List.map_congr_left fun r _ => ?_)
  exact (Prod.ext (ofCodePoint_ofChar r.1) (ofText_ofString r.2)).symm

theorem preset_found {name : Value} {p : Preset Float} (done : Payload.preset name = .ok p) : Preset.find? name = some p := by
  have found : Preset.find name = .ok p := by
    rw [Payload.preset] at done
    split at done
    · cases done
    · exact done
  rw [Preset.find] at found
  cases looked : (Preset.find? name : Option (Preset Float)) with
  | some q =>
    rw [looked] at found
    exact congrArg some (Except.ok.inj found)
  | none =>
    rw [looked] at found
    cases found

theorem ownSystem_asks {payload : Value} {s : Derivation} (done : Payload.ownSystem payload = .ok s)
    (unnamed : ∀ name, payload.field? "preset" = some name → name.truthy = false) :
    ∃ rules seed, Asks payload rules seed ∧ s = .start (table rules) (Sequence.ofText seed) := by
  rw [Payload.ownSystem] at done
  split at done
  case h_2 => cases done
  case h_1 seed fields ruled =>
    by_cases texts : (fields.all fun f => Payload.isText f.2) = true
    · simp only [texts, Bool.not_true, Bool.false_eq_true, ↓reduceIte] at done
      split at done
      case h_2 => cases done
      case h_1 word seeded =>
        by_cases empty : word.isEmpty = true
        · rw [if_pos empty] at done
          cases done
        · rw [if_neg empty] at done
          obtain ⟨t, built, done⟩ := bind_ok.mp done
          cases done
          obtain ⟨rules, rfl, rfl⟩ := fields_rules texts built
          exact ⟨rules, word, .own unnamed ruled seeded (by simpa using empty), rfl⟩
    · simp only [texts, Bool.not_false, ↓reduceIte] at done
      cases done

/-- The system of an accepted request is the one that it asks for. -/
theorem resolve_asks {settings : Settings} {payload : Value} {s : Derivation} {params : DrawParams Float}
    (accepted : Payload.resolve settings payload = .ok (s, params)) :
    ∃ rules seed, Asks payload rules seed ∧ s = .start (table rules) (Sequence.ofText seed) := by
  cases payload with
  | object fields =>
    obtain ⟨⟨found, base⟩, system, accepted⟩ := bind_ok.mp accepted
    obtain ⟨_, _, accepted⟩ := bind_ok.mp accepted
    obtain ⟨_, _, accepted⟩ := bind_ok.mp accepted
    cases accepted
    have own (made : (do return (← Payload.ownSystem (.object fields), ({} : DrawParams Float))) = Except.ok (s, base))
        (unnamed : ∀ name, Value.field? "preset" (.object fields) = some name → name.truthy = false) :
        ∃ rules seed, Asks (.object fields) rules seed ∧ s = .start (table rules) (Sequence.ofText seed) := by
      obtain ⟨found, built, made⟩ := bind_ok.mp made
      cases made
      exact ownSystem_asks built unnamed
    rw [Payload.system] at system
    cases named : Value.field? "preset" (.object fields) with
    | some name =>
      rw [named] at system
      dsimp only at system
      by_cases given : name.truthy = true
      · rw [if_pos given] at system
        obtain ⟨p, found, system⟩ := bind_ok.mp system
        cases system
        refine ⟨_, _, .preset named given (preset_found found), ?_⟩
        rw [Preset.system, preset_table, ofText_ofString]
      · rw [if_neg given] at system
        refine own system fun other same => ?_
        cases named.symm.trans same
        exact Bool.eq_false_iff.mpr given
    | none =>
      rw [named] at system
      refine own system fun other same => ?_
      cases named.symm.trans same
  | _ => cases accepted

end Lindenmayer.Requests
