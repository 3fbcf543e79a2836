import Lindenmayer.Proofs.Rewriting
import Lindenmayer.Proofs.Counting
import Lindenmayer.Proofs.Keys
import Lindenmayer.Service.Payload

/-!
The limits that a request is held to. The length that is checked is that of the last generation
(`checkLimits_ok`), so an accepted request never ends above the limit. Where no rule deletes its symbol
the lengths of the generations do not descend, and the earlier ones are within the limit too; any rule
that deletes lets through a request that is above the limit before its end
(`accepted_generations_exact`).
-/
namespace Lindenmayer.Limits
open Outcomes Counting Keys

/-- The number of generations that a request's parameters ask for. -/
def generations (params : DrawParams Float) : Except Failure Nat :=
  generationCount (params.iterations.getD DrawParams.usualIterations)

/-- Every generation of a system up to one is within the limit on symbols. -/
def Within (settings : Settings) (s : Derivation) (n : Nat) : Prop :=
  ∀ k ≤ n, ((s.rules.generation k s.seed).length : Int) ≤ settings.maxSymbols

/-! ### Lengths of generations -/

/-- Without a rule that deletes its symbol no generation is shorter than the one before. -/
theorem length_le_produce {t : RuleTable} (kept : ∀ s, t.get? s ≠ some []) (sequence : Sequence) :
    sequence.length ≤ (t.produce sequence).length := by
  induction sequence with
  | nil => exact Nat.zero_le _
  | cons s rest ih =>
    have some_ : 0 < (t.image s).length := by
      rw [RuleTable.image]
      cases found : t.get? s with
      | none => exact Nat.one_pos
      | some replacement =>
        refine List.length_pos_iff.mpr fun empty => kept s ?_
        rw [found]
        exact congrArg some empty
    have step : (t.produce (s :: rest)).length = (t.image s).length + (t.produce rest).length := by
      rw [RuleTable.produce, List.flatMap_cons, List.length_append, RuleTable.produce]
    rw [step, List.length_cons]
    omega

theorem generation_length_mono {t : RuleTable} (kept : ∀ s, t.get? s ≠ some []) (sequence : Sequence) {k n : Nat} (le : k ≤ n) :
    (t.generation k sequence).length ≤ (t.generation n sequence).length := by
  induction n with
  | zero => rw [Nat.le_zero.mp le]
  | succ n ih =>
    rcases Nat.lt_or_eq_of_le le with less | same
    · refine Nat.le_trans (ih (by omega)) ?_
      rw [Rewriting.generation_iterate t (n + 1), Function.iterate_succ_apply', ← Rewriting.generation_iterate]
      exact length_le_produce kept _
    · rw [same]

/-! ### Accepted requests -/

/-- A value is a number of generations just if it stands for that number and messages can show it. -/
theorem generationCount_ok {given : Value} {n : Nat} :
    generationCount given = .ok n ↔ given.plain = .int n ∧ given.showable = true := by
  rw [generationCount]
  split
  case h_1 m plain =>
    cases shown : given.showable with
    | false =>
      constructor
      · rintro ⟨⟩
      · rintro ⟨_, ⟨⟩⟩
    | true =>
      simp only [Bool.not_true, Bool.false_eq_true, ↓reduceIte, and_true]
      rw [plain, Value.int.injEq]
      by_cases natural : 0 ≤ m
      · rw [if_pos natural, Except.ok.injEq]
        omega
      · rw [if_neg natural]
        constructor
        · rintro ⟨⟩
        · omega
  case h_2 other =>
    constructor
    · rintro ⟨⟩
    · exact fun both => absurd both.1 (other n)

theorem generationCount_natural {n : Nat} (short : n < Nat.pow 10 Text.digitLimit) : generationCount (.int n) = .ok n :=
  generationCount_ok.mpr ⟨rfl, decide_eq_true short⟩

/-- The first reason for which a value is no number of generations: that messages cannot show it, that it is negative,
    or that it is no integer. -/
theorem generationCount_error {given : Value} {failure : Failure} : generationCount given = .error failure ↔
    given.showable = false ∧ failure = .tooManyDigits ∨
      given.showable = true ∧ ((∃ m, given.plain = .int m ∧ m < 0 ∧ failure = .generationsNegative m) ∨
        (∀ m, given.plain ≠ .int m) ∧ failure = .generationsNotInteger given) := by
  rw [generationCount]
  split
  case h_1 m plain =>
    cases shown : given.showable with
    | false => simp [eq_comm]
    | true =>
      by_cases natural : 0 ≤ m
      · simp [plain, natural]
      · simp [plain, natural, eq_comm, Int.not_le.mp natural]
  case h_2 other =>
    rw [Failure.showing]
    cases shown : given.showable with
    | false => simp [eq_comm]
    | true =>
      have unlike (m : Int) : given.plain ≠ .int m := other m
      simp [unlike, eq_comm]

/-- A value is an integer above the limit on generations. -/
def Exceeds (settings : Settings) : Value → Prop
  | .int m => settings.maxIterations < m
  | _ => False

instance (settings : Settings) (iterations : Value) : Decidable (Exceeds settings iterations) :=
  match iterations with
  | .int m => inferInstanceAs (Decidable (settings.maxIterations < m))
  | .null | .bool _ | .float _ | .text _ | .list _ | .object _ | .array _ _ _ | .element _ _ => .isFalse not_false

theorem exceeds_compared {settings : Settings} {iterations : Value} (above : Exceeds settings iterations) :
    (Payload.integer? iterations).any (settings.maxIterations < ·) = true := by
  cases iterations with
  | int m => exact decide_eq_true above
  | _ => exact above.elim

/-- What the check does behind the limit on the number of generations. -/
def checkLength (settings : Settings) (s : Derivation) (iterations : Value) : Except Failure Unit := do
  let n ← generationCount iterations
  if settings.maxSymbols < (s.rules.generation n s.seed).length then
    .error (.expansionTooLong (← writable (s.rules.generation n s.seed).length) settings.maxSymbols)

/-- The check first compares an integer with its limit, as which a truth value counts too. -/
theorem checkLimits_eq (settings : Settings) (s : Derivation) (iterations : Value) :
    Payload.checkLimits settings s iterations =
      if (Payload.integer? iterations).any (settings.maxIterations < ·) then .error (.tooManyIterations settings.maxIterations)
      else checkLength settings s iterations := by
  have counted : (do
      let n ← generationCount iterations
      let length := s.rules.expandedLength n s.seed
      if settings.maxSymbols < length then
        .error (.expansionTooLong (← writable length) settings.maxSymbols)) = checkLength settings s iterations := by
    simp only [checkLength, expandedLength_total_correct]
  rw [Payload.checkLimits, ← counted]
  cases Payload.integer? iterations with
  | none => rfl
  | some m =>
    by_cases many : settings.maxIterations < m
    · simp only [many, Option.any_some, decide_true, ↓reduceIte]
      rfl
    · simp only [many, Option.any_some, decide_false, Bool.false_eq_true, ↓reduceIte]

theorem checkLength_ok {settings : Settings} {s : Derivation} {iterations : Value} :
    checkLength settings s iterations = .ok () ↔
      ∃ n, generationCount iterations = .ok n ∧ ((s.rules.generation n s.seed).length : Int) ≤ settings.maxSymbols := by
  rw [checkLength, bind_ok]
  refine exists_congr fun n => and_congr_right fun _ => ?_
  by_cases above : settings.maxSymbols < ((s.rules.generation n s.seed).length : Int)
  · rw [if_pos above]
    constructor
    · intro impossible
      obtain ⟨_, _, impossible⟩ := bind_ok.mp impossible
      cases impossible
    · intro within
      omega
  · rw [if_neg above]
    exact ⟨fun _ => by omega, fun _ => rfl⟩

/-- The check succeeds just if the value is a number of generations, not above its limit as an integer, and
    the length of that generation is within its own. -/
theorem checkLimits_ok (settings : Settings) (s : Derivation) (iterations : Value) :
    Payload.checkLimits settings s iterations = .ok () ↔ ∃ n, generationCount iterations = .ok n ∧
      ¬ Exceeds settings iterations ∧ ((s.rules.generation n s.seed).length : Int) ≤ settings.maxSymbols := by
  rw [checkLimits_eq]
  by_cases many : (Payload.integer? iterations).any (settings.maxIterations < ·) = true
  · rw [if_pos many]
    constructor
    · rintro ⟨⟩
    · rintro ⟨n, counted, few, _⟩
      -- A truth value that is above the limit is no number of generations either.
      cases iterations with
      | int m => exact absurd (of_decide_eq_true many) few
      | bool b => cases (generationCount_ok.mp counted).1
      | _ => cases many
  · rw [if_neg many, checkLength_ok]
    have few : ¬ Exceeds settings iterations := fun above => many (exceeds_compared above)
    exact exists_congr fun n => and_congr_right fun _ => ⟨fun within => ⟨few, within⟩, fun both => both.2⟩

/-- An accepted number of generations is within its limit, unless it is an entry taken out of an array, which is not
    compared with that limit. -/
theorem few_generations {settings : Settings} {iterations : Value} {n : Nat} (counted : generationCount iterations = .ok n)
    (few : ¬ Exceeds settings iterations) : (n : Int) ≤ settings.maxIterations ∨ ∃ type entry, iterations = .element type entry := by
  obtain ⟨plain, _⟩ := generationCount_ok.mp counted
  cases iterations with
  | int m =>
    cases plain
    exact .inl (Int.not_lt.mp few)
  | element type entry => exact .inr ⟨type, entry, rfl⟩
  | _ => cases plain

/-- What is returned for an accepted request has passed the check. -/
theorem resolve_checked {settings : Settings} {payload : Value} {s : Derivation} {params : DrawParams Float}
    (accepted : Payload.resolve settings payload = .ok (s, params)) :
    ∃ n, generations params = .ok n ∧ ¬ Exceeds settings (params.iterations.getD DrawParams.usualIterations) ∧
      ((s.rules.generation n s.seed).length : Int) ≤ settings.maxSymbols := by
  cases payload with
  | object fields =>
    obtain ⟨⟨_, base⟩, _, accepted⟩ := bind_ok.mp accepted
    obtain ⟨own, _, accepted⟩ := bind_ok.mp accepted
    obtain ⟨⟨⟩, checked, accepted⟩ := bind_ok.mp accepted
    cases accepted
    exact (checkLimits_ok settings s _).mp checked
  | _ => cases accepted

/-! ### Requests that a rule that deletes lets through -/

private theorem get?_keys {t : RuleTable} {s : Symbol} {replacement : Sequence} (found : t.get? s = some replacement) :
    s ∈ t.keys := mem_keys.mpr ⟨replacement, found⟩

private theorem set_text {t after : RuleTable} {name : Text} {replacement : Value}
    (done : t.set (.text name) replacement = .ok after) : ∃ c sequence, after = t.insert (Symbol.ofCodePoint c) sequence := by
  obtain ⟨symbol, sequence, named, _, rfl⟩ := set_ok.mp done
  match name, named with
  | [c], named =>
    cases named
    exact ⟨c, sequence, rfl⟩

/-- The symbols that the rules of a request are for are code points. -/
private theorem insertAll_codePoints {fields : List (Text × Value)} {t after : RuleTable}
    (former : ∀ s ∈ t.keys, ∃ c, s = Symbol.ofCodePoint c)
    (done : t.insertAll (fields.map fun f => .list [.text f.1, f.2]) = .ok after) :
    ∀ s ∈ after.keys, ∃ c, s = Symbol.ofCodePoint c := by
  induction fields generalizing t with
  | nil =>
    cases done
    exact former
  | cons field rest ih =>
    obtain ⟨⟨key, replacement⟩, taken, done⟩ := bind_ok.mp done
    cases taken
    obtain ⟨next, inserted, done⟩ := bind_ok.mp done
    obtain ⟨c, sequence, rfl⟩ := set_text inserted
    refine ih (fun s member => ?_) done
    rcases mem_keys_insertRule.mp member with before | here
    · exact former s before
    · exact ⟨c, here⟩

/-- A request with rules and a seed of its own and a number of generations. -/
def request (fields : List (Text × Value)) (seed : Text) (generations : Int) : Value :=
  .record [("rules", .object fields), ("seed", .text seed), ("iterations", .int generations)]

/-- A request of its own is accepted if its rules make a table and the check succeeds. -/
theorem resolve_request {fields : List (Text × Value)} {c : CodePoint} {seed : Text} {t : RuleTable} {settings : Settings}
    {generations : Int} (texts : (fields.all fun f => Payload.isText f.2) = true)
    (built : RuleTable.ofValue (.object fields) = .ok t)
    (checked : Payload.checkLimits settings (Derivation.start t (Sequence.ofText (c :: seed))) (.int generations) = .ok ()) :
    ∃ params, Payload.resolve settings (request fields (c :: seed) generations) =
      .ok (Derivation.start t (Sequence.ofText (c :: seed)), params) ∧ params.iterations = some (.int generations) := by
  have values : Derivation.ofValues (.object fields) (.text (c :: seed)) = .ok (Derivation.start t (Sequence.ofText (c :: seed))) :=
    bind_ok.mpr ⟨t, built, rfl⟩
  have own : Payload.ownSystem (request fields (c :: seed) generations) = .ok (Derivation.start t (Sequence.ofText (c :: seed))) := by
    have rules : (request fields (c :: seed) generations).field? "rules" = some (.object fields) := rfl
    have named : (request fields (c :: seed) generations).field? "seed" = some (.text (c :: seed)) := rfl
    rw [Payload.ownSystem, rules, named]
    simp only [texts, List.isEmpty_cons, Bool.not_true, Bool.false_eq_true, ↓reduceIte]
    exact values
  have system : Payload.system (request fields (c :: seed) generations) = .ok (Derivation.start t (Sequence.ofText (c :: seed)), {}) := by
    have preset : (request fields (c :: seed) generations).field? "preset" = none := rfl
    rw [Payload.system, preset]
    exact bind_ok.mpr ⟨_, own, rfl⟩
  have overrides : ∃ own, Payload.overrides (request fields (c :: seed) generations) = .ok own ∧
      own.iterations = some (.int generations) := ⟨_, rfl, rfl⟩
  obtain ⟨own, overridden, asked⟩ := overrides
  have same : (own.overriding {}).iterations = some (.int generations) := by
    rw [DrawParams.overriding, asked]
    rfl
  refine ⟨{ own.overriding {} with iterations := some (.int generations) }, ?_, rfl⟩
  refine bind_ok.mpr ⟨_, system, bind_ok.mpr ⟨own, overridden, bind_ok.mpr ⟨(), ?_, ?_⟩⟩⟩
  · rw [same]
    exact checked
  · rw [same]
    rfl

/-- An accepted request ends within the limits, and where no rule of its table deletes its symbol every
    generation up to the last is within the limit too. That condition is needed: any table of a request's
    rules that deletes a symbol lets a request through that is above the limit before its end. The number of
    generations is within its own limit wherever it is an integer by itself and no entry out of an array. -/
theorem accepted_generations_exact (t : RuleTable) :
    (∀ settings payload s params, Payload.resolve settings payload = .ok (s, params) → s.rules = t →
      ∃ n, generations params = .ok n ∧
        ((n : Int) ≤ settings.maxIterations ∨ ∃ type entry, params.iterations = some (.element type entry)) ∧
        ((s.rules.generation n s.seed).length : Int) ≤ settings.maxSymbols ∧
        ((∀ symbol, t.get? symbol ≠ some []) → Within settings s n)) ∧
    ∀ fields symbol, (fields.all fun f => Payload.isText f.2) = true → RuleTable.ofValue (.object fields) = .ok t →
      t.get? symbol = some [] → ∃ settings payload s params n, Payload.resolve settings payload = .ok (s, params) ∧
        s.rules = t ∧ generations params = .ok n ∧ ¬ Within settings s n := by
  constructor
  · rintro settings payload s params accepted rfl
    obtain ⟨n, counted, few, last⟩ := resolve_checked accepted
    have own : (n : Int) ≤ settings.maxIterations ∨ ∃ type entry, params.iterations = some (.element type entry) := by
      refine (few_generations counted few).imp_right fun ⟨type, entry, same⟩ => ⟨type, entry, ?_⟩
      cases asked : params.iterations with
      | some given =>
        rw [asked] at same
        exact congrArg some same
      | none =>
        rw [asked] at same
        cases same
    refine ⟨n, counted, own, last, fun kept k le => ?_⟩
    have grown := generation_length_mono kept s.seed le
    omega
  · intro fields symbol texts built deleting
    obtain ⟨c, rfl⟩ : ∃ c, symbol = Symbol.ofCodePoint c := by
      refine insertAll_codePoints (t := .empty) (fun s member => ?_) built symbol (get?_keys deleting)
      cases member
    -- the symbol twice is one symbol too long, until the one generation deletes it
    let settings : Settings := { maxIterations := 1, maxSymbols := 1 }
    have last : t.generation 1 (Sequence.ofText [c, c]) = [] := by
      simp [RuleTable.generation, RuleTable.produce, Sequence.ofText, RuleTable.image, deleting]
    have checked : Payload.checkLimits settings (Derivation.start t (Sequence.ofText [c, c])) (.int 1) = .ok () := by
      refine (checkLimits_ok settings _ _).mpr ⟨1, generationCount_natural (by decide +kernel), by decide, ?_⟩
      change ((t.generation 1 (Sequence.ofText [c, c])).length : Int) ≤ 1
      rw [last]
      decide
    obtain ⟨params, accepted, asked⟩ := resolve_request texts built checked
    refine ⟨settings, request fields [c, c] 1, _, params, 1, accepted, rfl, ?_, fun within => ?_⟩
    · rw [generations, asked]
      exact generationCount_natural (by decide +kernel)
    · have first : (2 : Int) ≤ 1 := within 0 (by decide)
      omega

/-- Four symbols that are deleted in the second generation pass a limit of three. -/
theorem deleted_symbols_above_limit :
    ¬ ∀ settings payload s params, Payload.resolve settings payload = .ok (s, params) →
      ∀ n, generations params = .ok n → Within settings s n := by
  intro claimed
  let settings : Settings := { maxSymbols := 3 }
  let fields : List (Text × Value) := [(Text.ofString "A", .string "BBBB"), (Text.ofString "B", .string "")]
  let t : RuleTable := ⟨[(65, [66, 66, 66, 66]), (66, [])], none⟩
  have built : RuleTable.ofValue (.object fields) = .ok t := rfl
  have two : generationCount (.int 2) = .ok 2 := generationCount_natural (by decide +kernel)
  have checked : Payload.checkLimits settings (Derivation.start t (Sequence.ofText [65])) (.int 2) = .ok () :=
    (checkLimits_ok settings _ _).mpr ⟨2, two, by decide, by decide⟩
  have texts : (fields.all fun f => Payload.isText f.2) = true := rfl
  obtain ⟨params, accepted, asked⟩ := resolve_request texts built checked
  have counted : generations params = .ok 2 := by
    rw [generations, asked]
    exact two
  have first := claimed _ _ _ _ accepted 2 counted 1 (by decide)
  exact absurd first (by decide)

end Lindenmayer.Limits
