import Lindenmayer.Proofs.Doubles
import Lindenmayer.Proofs.Verdicts

/-!
What becomes of a request that is not granted. A failure to resolve a payload is told to the asker with a status of
its own, unless a preset is named by a list or an object, a number is an integer too great for a double, or a length
or what is given has more digits than can be written. Those failures, and no others, are answered as faults of the
service (`failures_told`).
-/
namespace Lindenmayer.Answering
open Outcomes Limits Verdicts
open Doubles (convert_tooGreat convert_near)

/-! ### Answers to failures -/

/-- A failure is answered with a status, and with its message under a name. -/
structure AnsweredBy (f : Failure) (status : Nat) (name : String) : Prop where
  status : (Response.ofFailure f).status = status
  content : (Response.ofFailure f).content = .json (.record [(name, .string f.message)])

/-- That there is no preset of a name, with those that there are. -/
def unknown (name : Value) : Failure := .noSuchPreset name (Preset.knownNames (K := Float))

/-- How a failure to resolve a payload is told to the asker. -/
inductive Told (payload : Value) : Failure → Prop where
  | rejected {f : Failure} : f.category = .rejected → AnsweredBy f 400 "error" → Told payload f
  | tooLarge {f : Failure} : f.category = .tooLarge → AnsweredBy f 413 "error" → Told payload f
  | unknownPreset {name : Value} : payload.field? "preset" = some name → name.truthy = true →
      Preset.find? (K := Float) name = none → name.showable = true → AnsweredBy (unknown name) 404 "detail" → Told payload (unknown name)

private theorem ofString_encodable (s : String) : Text.hasSurrogate (Text.ofString s) = false := by
  rw [Text.hasSurrogate, Text.ofString, List.any_map, List.any_eq_false]
  rintro c _
  have valid : (Text.ofChar c).val.isValidChar := c.valid
  simp only [Function.comp_apply, valid, decide_true, Bool.not_true, Bool.false_eq_true, not_false_eq_true]

private theorem message_encodable (name message : String) : (Value.record [(name, .string message)]).encodable = true := by
  simp [Value.record, Value.string, Value.encodable, Value.encodableFields, ofString_encodable]

private theorem json_answers (status : Nat) (name message : String) :
    Response.json status none (.record [(name, .string message)]) =
      { status, mediaType := some "application/json", content := .json (.record [(name, .string message)]) } := by
  rw [Response.json, if_pos (message_encodable name message)]

theorem AnsweredBy.of_json {f : Failure} {status : Nat} {name : String}
    (answer : Response.ofFailure f = .json status none (.record [(name, .string f.message)])) : AnsweredBy f status name := by
  rw [json_answers] at answer
  exact ⟨answer ▸ rfl, answer ▸ rfl⟩

theorem rejected_answer {f : Failure} (category : f.category = .rejected) : AnsweredBy f 400 "error" :=
  .of_json (by rw [Response.ofFailure, category])

theorem tooLarge_answer {f : Failure} (category : f.category = .tooLarge) : AnsweredBy f 413 "error" :=
  .of_json (by rw [Response.ofFailure, category])

theorem notFound_answer {f : Failure} (category : f.category = .notFound) : AnsweredBy f 404 "detail" :=
  .of_json (by rw [Response.ofFailure, category])

/-! ### Failures that nobody is told of -/

/-- The fields of a payload that are numbers, in the order in which they are read. -/
def numberNames : List String := ["forward", "turn", "startingx", "startingy", "starting_orientation"]

/-- A field that can be taken as a number, or that is not there. -/
def NumberTaken (payload : Value) (name : String) : Prop := ∃ x, Payload.numberField payload name = .ok x

/-- The number of generations that is asked for, of a preset's and those of the payload. -/
def asked (own base : DrawParams Float) : Value := (own.overriding base).iterations.getD DrawParams.usualIterations

/-- What makes a payload fail in a way that its asker is not told of. -/
inductive Mishap (settings : Settings) (payload : Value) : Failure → Prop where
  /-- The preset's name is a list or an object. -/
  | presetNoKey {name : Value} : payload.field? "preset" = some name → name.truthy = true → name.isKey = false →
      Mishap settings payload .wrongKind
  /-- An integer that no double is near stands for a number, and the numbers before it can be taken. -/
  | numberTooGreat {found : Derivation × DrawParams Float} {before after : List String} {name : String} {n : Int} :
      Payload.system payload = .ok found → numberNames = before ++ name :: after →
      (∀ earlier ∈ before, NumberTaken payload earlier) → Payload.present? payload name = some (.int n) →
      Double.integerLimit ≤ n.natAbs → Mishap settings payload .overflow
  /-- The length of the last generation is above its limit and cannot be written. -/
  | lengthUnwritable {s : Derivation} {own base : DrawParams Float} {n : Nat} :
      Payload.system payload = .ok (s, base) → Payload.overrides payload = .ok own → generationCount (asked own base) = .ok n →
      ¬ Exceeds settings (asked own base) → settings.maxSymbols < finalLength s n → ¬ Writable (finalLength s n) →
      Mishap settings payload .tooManyDigits
  /-- There is no preset of a name that messages cannot show. -/
  | presetUnshown {name : Value} : payload.field? "preset" = some name → name.truthy = true → name.isKey = true →
      Preset.find? (K := Float) name = none → name.showable = false → Mishap settings payload .tooManyDigits
  /-- Messages cannot show what is given as a number of generations. -/
  | generationsUnshown {s : Derivation} {own base : DrawParams Float} :
      Payload.system payload = .ok (s, base) → Payload.overrides payload = .ok own → ¬ Exceeds settings (asked own base) →
      (asked own base).showable = false → Mishap settings payload .tooManyDigits

theorem mishap_status {settings : Settings} {payload : Value} {f : Failure} (mishap : Mishap settings payload f) :
    (Response.ofFailure f).status = 500 := by
  cases mishap with
  | presetNoKey | numberTooGreat | lengthUnwritable | presetUnshown | generationsUnshown => rfl

/-! ### The parts of a payload -/

theorem preset_failed {name : Value} {f : Failure} (failed : Payload.preset name = .error f) :
    name.isKey = false ∧ f = .wrongKind ∨ name.isKey = true ∧ Preset.find? (K := Float) name = none ∧
      (name.showable = true ∧ f = unknown name ∨ name.showable = false ∧ f = .tooManyDigits) := by
  rw [Payload.preset, Preset.find] at failed
  cases found : Preset.find? (K := Float) name with
  | some p =>
    rw [found] at failed
    cases failed
  | none =>
    rw [found] at failed
    cases key : name.isKey with
    | true =>
      cases shown : name.showable with
      | true =>
        simp only [key, Failure.showing, shown, ↓reduceIte] at failed
        cases failed
        exact .inr ⟨rfl, rfl, .inl ⟨rfl, rfl⟩⟩
      | false =>
        simp only [key, Failure.showing, shown, Bool.false_eq_true, ↓reduceIte] at failed
        cases failed
        exact .inr ⟨rfl, rfl, .inr ⟨rfl, rfl⟩⟩
    | false =>
      simp only [key, Bool.false_eq_true, ↓reduceIte] at failed
      cases failed
      exact .inl ⟨rfl, rfl⟩

/-- What is no key names no preset. -/
theorem preset_noKey {name : Value} (unfit : name.isKey = false) : Payload.preset name = .error .wrongKind := by
  cases name with
  | list | object | array => rfl
  | null | bool | int | float | text | element => cases unfit

theorem preset_unshown {name : Value} (key : name.isKey = true) (absent : Preset.find? (K := Float) name = none)
    (hidden : name.showable = false) : Payload.preset name = .error .tooManyDigits := by
  rw [Payload.preset, Preset.find, absent]
  simp only [key, Failure.showing, hidden, Bool.false_eq_true, ↓reduceIte]

theorem set_rejected {t : RuleTable} {key : Text} {replacement : Value} {f : Failure} (text : Payload.isText replacement = true)
    (failed : t.set (.text key) replacement = .error f) : f.category = .rejected := by
  cases replacement with
  | text s =>
    rcases bind_error.mp failed with failed | ⟨_, _, failed⟩
    · match key, failed with
      | [], failed | _ :: _ :: _, failed =>
        cases failed
        rfl
    · rcases bind_error.mp failed with failed | ⟨_, _, failed⟩
      · cases failed
      · cases failed
  | null | bool | int | float | list | object | array | element => cases text

theorem insertAll_rejected {fields : List (Text × Value)} {t : RuleTable} {f : Failure}
    (texts : (fields.all fun field => Payload.isText field.2) = true)
    (failed : t.insertAll (fields.map fun field => .list [.text field.1, field.2]) = .error f) : f.category = .rejected := by
  induction fields generalizing t with
  | nil => cases failed
  | cons field rest ih =>
    obtain ⟨text, texts⟩ := Bool.and_eq_true_iff.mp (List.all_cons ▸ texts)
    rcases bind_error.mp failed with failed | ⟨⟨key, replacement⟩, taken, failed⟩
    · cases failed
    cases taken
    rcases bind_error.mp failed with failed | ⟨next, _, failed⟩
    · exact set_rejected text failed
    · exact ih texts failed

theorem ownSystem_rejected {payload : Value} {f : Failure} (failed : Payload.ownSystem payload = .error f) :
    f.category = .rejected := by
  rw [Payload.ownSystem] at failed
  split at failed
  · split at failed
    · cases failed
      rfl
    · rename_i texts
      split at failed
      · split at failed
        · cases failed
          rfl
        · rcases bind_error.mp failed with failed | ⟨_, _, failed⟩
          · exact insertAll_rejected (by simpa using texts) failed
          · rcases bind_error.mp failed with failed | ⟨_, _, failed⟩
            · cases failed
            · cases failed
      · cases failed
        rfl
  · cases failed
    rfl

theorem system_failed (settings : Settings) {payload : Value} {f : Failure} (failed : Payload.system payload = .error f) :
    Told payload f ∨ Mishap settings payload f := by
  have own (failed : (do return (← Payload.ownSystem payload, ({} : DrawParams Float))) = Except.error f) : Told payload f := by
    rcases bind_error.mp failed with failed | ⟨_, _, failed⟩
    · have category := ownSystem_rejected failed
      exact .rejected category (rejected_answer category)
    · cases failed
  rw [Payload.system] at failed
  split at failed
  · rename_i name named
    split at failed
    · rename_i given
      rcases bind_error.mp failed with failed | ⟨_, _, failed⟩
      · rcases preset_failed failed with ⟨unfit, rfl⟩ | ⟨key, absent, ⟨shown, rfl⟩ | ⟨hidden, rfl⟩⟩
        · exact .inr (.presetNoKey named given unfit)
        · exact .inl (.unknownPreset named given absent shown (notFound_answer rfl))
        · exact .inr (.presetUnshown named given key absent hidden)
      · cases failed
    · exact .inl (own failed)
  · exact .inl (own failed)

/-- A field cannot be taken as a number if it is none, or an integer that no double is near. -/
theorem numberField_failed {payload : Value} {name : String} {f : Failure} (failed : Payload.numberField payload name = .error f) :
    f = .parameterNotNumber name ∨
      f = .overflow ∧ ∃ n, Payload.present? payload name = some (.int n) ∧ Double.integerLimit ≤ n.natAbs := by
  rw [Payload.numberField] at failed
  cases found : Payload.present? payload name with
  | none =>
    rw [found] at failed
    cases failed
  | some value =>
    rw [found] at failed
    cases value with
    | int n =>
      refine .inr ?_
      by_cases great : Double.integerLimit ≤ n.natAbs
      · simp only [Payload.number, convert_tooGreat great] at failed
        cases failed
        exact ⟨rfl, n, rfl, great⟩
      · simp only [Payload.number, convert_near (Nat.lt_of_not_le great)] at failed
        cases failed
    | float x => cases failed
    | null | bool | text | list | object | array | element =>
      cases failed
      exact .inl rfl

theorem numberField_tooGreat {payload : Value} {name : String} {n : Int} (found : Payload.present? payload name = some (.int n))
    (great : Double.integerLimit ≤ n.natAbs) : Payload.numberField payload name = .error .overflow := by
  rw [Payload.numberField, found]
  simp only [Payload.number, convert_tooGreat great]
  rfl

theorem rngSeed_failed {given : Option Value} {f : Failure} (failed : given.mapM Payload.rngSeed = .error f) :
    f = .rngSeedNotNatural := by
  cases given with
  | none => cases failed
  | some value =>
    have failed : Payload.rngSeed value = .error f := by
      rcases bind_error.mp failed with failed | ⟨_, _, failed⟩
      · exact failed
      · cases failed
    cases value with
    | int n =>
      rw [Payload.rngSeed] at failed
      split at failed
      · cases failed
      · cases failed
        rfl
    | null | bool | float | text | list | object | array | element =>
      cases failed
      rfl

/-- What is overridden fails with the first number that cannot be taken, or else with its seed. -/
theorem overrides_error {payload : Value} {f : Failure} : Payload.overrides payload = .error f ↔
    numberNames.mapM (Payload.numberField payload) = .error f ∨
      (∃ numbers, numberNames.mapM (Payload.numberField payload) = .ok numbers) ∧
        (Payload.present? payload "rng_seed").mapM Payload.rngSeed = .error f := by
  have last {α β : Type} {x : Except Failure α} {g : α → β} : (do return g (← x)) = Except.error f ↔ x = .error f := by
    rw [bind_error]
    refine or_iff_left ?_
    rintro ⟨_, _, impossible⟩
    cases impossible
  simp only [Payload.overrides, numberNames, List.mapM_cons, List.mapM_nil, bind_error, bind_ok, last]
  -- The fields are read one after the other, and the first that cannot be taken decides.
  cases Payload.numberField payload "forward" with
  | error => simp
  | ok =>
  cases Payload.numberField payload "turn" with
  | error => simp
  | ok =>
  cases Payload.numberField payload "startingx" with
  | error => simp
  | ok =>
  cases Payload.numberField payload "startingy" with
  | error => simp
  | ok =>
  cases Payload.numberField payload "starting_orientation" with
  | error => simp
  | ok => simp [pure, Except.pure]

/-- But for truth values an integer above its limit is all that the first comparison refuses. -/
theorem checkLimits_few {settings : Settings} {iterations : Value} (few : ¬ Exceeds settings iterations)
    (other : ∀ b, iterations ≠ .bool b) (s : Derivation) :
    Payload.checkLimits settings s iterations = checkLength settings s iterations := by
  rw [checkLimits_eq]
  refine if_neg fun above => ?_
  cases iterations with
  | int m => exact few (of_decide_eq_true above)
  | bool b => exact other b rfl
  | _ => cases above

theorem checkLimits_unwritable {settings : Settings} {s : Derivation} {iterations : Value} {n : Nat}
    (counted : generationCount iterations = .ok n) (few : ¬ Exceeds settings iterations)
    (long : settings.maxSymbols < finalLength s n) (unwritable : ¬ Writable (finalLength s n)) :
    Payload.checkLimits settings s iterations = .error .tooManyDigits := by
  have other (b : Bool) : iterations ≠ .bool b := by
    rintro rfl
    cases (generationCount_ok.mp counted).1
  rw [checkLimits_few few other, checkLength_counted counted, if_pos long, if_neg unwritable]

theorem checkLimits_unshown {settings : Settings} {iterations : Value} (few : ¬ Exceeds settings iterations)
    (hidden : iterations.showable = false) (s : Derivation) :
    Payload.checkLimits settings s iterations = .error .tooManyDigits := by
  have other (b : Bool) : iterations ≠ .bool b := by
    rintro rfl
    cases hidden
  have refused : generationCount iterations = .error .tooManyDigits := generationCount_error.mpr (.inl ⟨hidden, rfl⟩)
  rw [checkLimits_few few other, checkLength, refused]
  rfl

theorem checkLimits_failed {settings : Settings} {s : Derivation} {iterations : Value} {f : Failure}
    (failed : Payload.checkLimits settings s iterations = .error f) :
    f.category = .rejected ∨ f.category = .tooLarge ∨ f = .tooManyDigits ∧ ¬ Exceeds settings iterations ∧
      (iterations.showable = false ∨ ∃ n, generationCount iterations = .ok n ∧
        settings.maxSymbols < finalLength s n ∧ ¬ Writable (finalLength s n)) := by
  rw [checkLimits_eq] at failed
  by_cases above : (Payload.integer? iterations).any (settings.maxIterations < ·) = true
  · rw [if_pos above] at failed
    cases failed
    exact .inr (.inl rfl)
  rw [if_neg above] at failed
  have few : ¬ Exceeds settings iterations := fun exceeds => above (exceeds_compared exceeds)
  cases counted : generationCount iterations with
  | error refusal =>
    have same : f = refusal := by
      rw [checkLength, counted] at failed
      exact (Except.error.inj failed).symm
    rcases generationCount_error.mp counted with ⟨hidden, rfl⟩ | ⟨_, ⟨m, _, _, rfl⟩ | ⟨_, rfl⟩⟩
    · exact .inr (.inr ⟨same, few, .inl hidden⟩)
    · exact .inl (same ▸ rfl)
    · exact .inl (same ▸ rfl)
  | ok n =>
    rw [checkLength_counted counted] at failed
    by_cases long : settings.maxSymbols < finalLength s n
    · rw [if_pos long] at failed
      by_cases short : Writable (finalLength s n)
      · rw [if_pos short] at failed
        cases failed
        exact .inr (.inl rfl)
      · rw [if_neg short] at failed
        cases failed
        exact .inr (.inr ⟨rfl, few, .inr ⟨n, rfl, long, short⟩⟩)
    · rw [if_neg long] at failed
      cases failed

/-! ### Main statements -/

theorem resolve_failed {settings : Settings} {fields : List (Text × Value)} {f : Failure}
    (failed : Payload.resolve settings (.object fields) = .error f) :
    Told (.object fields) f ∨ Mishap settings (.object fields) f := by
  have rejected (category : f.category = .rejected) : Told (.object fields) f := .rejected category (rejected_answer category)
  rcases bind_error.mp failed with failed | ⟨⟨s, base⟩, system, failed⟩
  · exact system_failed settings failed
  rcases bind_error.mp failed with failed | ⟨own, overridden, failed⟩
  · rcases overrides_error.mp failed with failed | ⟨-, failed⟩
    · obtain ⟨before, name, after, split, taken, failed⟩ := mapM_error.mp failed
      rcases numberField_failed failed with rfl | ⟨rfl, n, found, great⟩
      · exact .inl (rejected rfl)
      · exact .inr (.numberTooGreat system split taken found great)
    · cases rngSeed_failed failed
      exact .inl (rejected rfl)
  rcases bind_error.mp failed with failed | ⟨_, _, failed⟩
  · rcases checkLimits_failed failed with category | category | ⟨rfl, few, hidden | ⟨n, counted, long, unwritable⟩⟩
    · exact .inl (rejected category)
    · exact .inl (.tooLarge category (tooLarge_answer category))
    · exact .inr (.generationsUnshown system overridden few hidden)
    · exact .inr (.lengthUnwritable system overridden counted few long unwritable)
  · cases failed

theorem mishap_fails {settings : Settings} {fields : List (Text × Value)} {f : Failure}
    (mishap : Mishap settings (.object fields) f) :
    Payload.resolve settings (.object fields) = .error f := by
  refine bind_error.mpr ?_
  cases mishap with
  | presetNoKey named given unfit =>
    refine .inl ?_
    rw [Payload.system, named]
    simp only [given, ↓reduceIte, preset_noKey unfit]
    rfl
  | numberTooGreat system split taken found great =>
    have failed := overrides_error.mpr (.inl (mapM_error.mpr ⟨_, _, _, split, taken, numberField_tooGreat found great⟩))
    exact .inr ⟨_, system, bind_error.mpr (.inl failed)⟩
  | lengthUnwritable system overridden counted few long unwritable =>
    have failed := checkLimits_unwritable counted few long unwritable
    exact .inr ⟨_, system, bind_error.mpr (.inr ⟨_, overridden, bind_error.mpr (.inl failed)⟩)⟩
  | presetUnshown named given key absent hidden =>
    refine .inl ?_
    rw [Payload.system, named]
    simp only [given, ↓reduceIte, preset_unshown key absent hidden]
    rfl
  | generationsUnshown system overridden few hidden =>
    have failed := checkLimits_unshown few hidden
    exact .inr ⟨_, system, bind_error.mpr (.inr ⟨_, overridden, bind_error.mpr (.inl (failed _))⟩)⟩

/-- A payload that cannot be resolved is answered as rejected, as too large or as naming no preset, each with its
    status and message, or it meets one of the mishaps that are answered as a fault of the service; every payload that
    meets one is. -/
theorem failures_told (settings : Settings) (fields : List (Text × Value)) (f : Failure) :
    (Payload.resolve settings (.object fields) = .error f → Told (.object fields) f ∨ Mishap settings (.object fields) f) ∧
      (Mishap settings (.object fields) f → Payload.resolve settings (.object fields) = .error f ∧
        (Response.ofFailure f).status = 500 ∧ ¬ Told (.object fields) f) := by
  refine ⟨resolve_failed, fun mishap => ⟨mishap_fails mishap, mishap_status mishap, fun told => ?_⟩⟩
  have unanswered := mishap_status mishap
  cases told with
  | rejected _ answer | tooLarge _ answer | unknownPreset _ _ _ _ answer =>
    rw [answer.status] at unanswered
    cases unanswered

/-- A preset that is named by a list is a fault of the service. -/
theorem listed_preset_untold :
    ¬ ∀ settings fields f, Payload.resolve settings (.object fields) = .error f → Told (.object fields) f := by
  intro claimed
  have told := claimed {} [(Text.ofString "preset", .list [.string "koch"])] .wrongKind rfl
  cases told with
  | rejected _ answer | tooLarge _ answer => cases answer.status

end Lindenmayer.Answering
