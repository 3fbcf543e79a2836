import Lindenmayer.Proofs.Alphabets
import Lindenmayer.Proofs.Limits
import Lindenmayer.Proofs.Passes
import Lindenmayer.Service.Routes

/-!
What the check of the limits decides, and what is reported of a system that it accepts. The verdict on a
value of generations depends on the value, the limits and the length of the last generation alone
(`checkLimits_verdict`). Tracing reads every symbol of the last generation (`trace_commands`), so a trace,
a saved file and an expansion all report the length that was checked (`Reported`, `limits_judged`). A length
with more digits than can be written is refused, but not with the verdict that it is too large
(`unwritable_length`).
-/
namespace Lindenmayer.Verdicts
open Outcomes Rewriting Counting Limits Alphabets Passes

/-- The length of a system's seed after so many generations. -/
def finalLength (s : Derivation) (n : Nat) : Nat := (s.rules.generation n s.seed).length

/-- A length that has few enough digits to be written. -/
def Writable (n : Nat) : Prop := n < Nat.pow 10 Text.digitLimit

instance : DecidablePred Writable := fun n => inferInstanceAs (Decidable (n < Nat.pow 10 Text.digitLimit))

/-! ### The verdict -/

/-- What can become of a request: it is accepted, refused as too large, rejected as wrong, or it fails. -/
inductive Verdict where
  | accepted | tooLarge | rejected | failed
deriving DecidableEq, Repr

/-- The verdict that an outcome of the check is. -/
def Verdict.ofOutcome : Except Failure Unit → Verdict
  | .ok () => .accepted
  | .error failure =>
    match failure.category with
    | .tooLarge => .tooLarge
    | .rejected => .rejected
    | _ => .failed

/-- The verdict on the length of a generation. One above the limit is only refused as such if it can be written. -/
def lengthVerdict (settings : Settings) (length : Nat) : Verdict :=
  if length ≤ settings.maxSymbols then .accepted
  else if Writable length then .tooLarge
  else .failed

/-- The verdict on a value of generations. An integer above its limit is too large. What else is no natural number is
    rejected, truth values included, unless messages cannot show it; a natural number is judged by the length of the
    last generation. -/
def verdict (settings : Settings) (s : Derivation) (iterations : Value) : Verdict :=
  if Exceeds settings iterations then .tooLarge
  else if !iterations.showable then .failed
  else
    match iterations.plain with
    | .int m => if m < 0 then .rejected else lengthVerdict settings (finalLength s m.toNat)
    | _ => .rejected

/-- Where the limit is above zero no truth value exceeds it. -/
theorem exceeds_any {settings : Settings} (positive : 0 < settings.maxIterations) (iterations : Value) :
    (Payload.integer? iterations).any (settings.maxIterations < ·) = true ↔ Exceeds settings iterations := by
  refine ⟨fun above => ?_, exceeds_compared⟩
  cases iterations with
  | int m => exact of_decide_eq_true above
  | bool b =>
    have above : settings.maxIterations < if b then 1 else 0 := of_decide_eq_true above
    split at above
    · omega
    · omega
  | _ => cases above

theorem checkLength_counted {settings : Settings} {s : Derivation} {iterations : Value} {n : Nat}
    (counted : generationCount iterations = .ok n) : checkLength settings s iterations =
      if settings.maxSymbols < finalLength s n then
        if Writable (finalLength s n) then .error (.expansionTooLong (finalLength s n) settings.maxSymbols) else .error .tooManyDigits
      else .ok () := by
  rw [checkLength, counted]
  change (if settings.maxSymbols < (finalLength s n : Int) then (writable (finalLength s n)).bind _ else Except.ok ()) = _
  by_cases short : Writable (finalLength s n)
  · have written : writable (finalLength s n) = .ok (finalLength s n) := if_pos short
    rw [written, if_pos short]
    rfl
  · have unwritten : writable (finalLength s n) = .error .tooManyDigits := if_neg short
    rw [unwritten, if_neg short]
    rfl

theorem checkLength_verdict (settings : Settings) (s : Derivation) {iterations : Value} {n : Nat}
    (counted : generationCount iterations = .ok n) :
    Verdict.ofOutcome (checkLength settings s iterations) = lengthVerdict settings (finalLength s n) := by
  rw [checkLength_counted counted, lengthVerdict]
  by_cases within : finalLength s n ≤ settings.maxSymbols
  · rw [if_pos within, if_neg (by omega)]
    rfl
  · rw [if_neg within, if_pos (by omega)]
    by_cases short : Writable (finalLength s n)
    · rw [if_pos short, if_pos short]
      rfl
    · rw [if_neg short, if_neg short]
      rfl

theorem verdict_counted {settings : Settings} {iterations : Value} (few : ¬ Exceeds settings iterations) (s : Derivation) {n : Nat}
    (counted : generationCount iterations = .ok n) : verdict settings s iterations = lengthVerdict settings (finalLength s n) := by
  obtain ⟨plain, shown⟩ := generationCount_ok.mp counted
  have natural : ¬ (n : Int) < 0 := by omega
  rw [verdict, if_neg few, shown, plain]
  change (if (n : Int) < 0 then Verdict.rejected else lengthVerdict settings (finalLength s n)) = _
  rw [if_neg natural]

theorem checkLimits_verdict {settings : Settings} (positive : 0 < settings.maxIterations) (s : Derivation) (iterations : Value) :
    Verdict.ofOutcome (Payload.checkLimits settings s iterations) = verdict settings s iterations := by
  rw [checkLimits_eq]
  by_cases above : Exceeds settings iterations
  · rw [verdict, if_pos above, if_pos ((exceeds_any positive iterations).mpr above)]
    rfl
  rw [if_neg (mt (exceeds_any positive iterations).mp above)]
  cases count : generationCount iterations with
  | ok n => rw [checkLength_verdict settings s count, verdict_counted above s count]
  | error failure =>
    have refused : checkLength settings s iterations = .error failure := by
      rw [checkLength, count]
      rfl
    rw [refused, verdict, if_neg above]
    rcases generationCount_error.mp count with ⟨hidden, rfl⟩ | ⟨shown, ⟨m, plain, negative, rfl⟩ | ⟨other, rfl⟩⟩
    · rw [hidden]
      rfl
    · rw [plain, shown]
      exact (if_pos negative).symm
    · rw [shown]
      cases plain : iterations.plain with
      | int m => exact absurd plain (other m)
      | _ => rfl

/-! ### Counts of symbols -/

section
variable {K : Type} [Scalar K]

/-- A trace counts the symbols of the last generation, whatever state the system was found in. -/
theorem trace_commands {s : Derivation} (current : Current s.rules) {o : TraceOptions K} {n : Nat}
    (counted : generationCount o.iterations = .ok n) {trace : Trace K} (traced : (s.trace o).2 = .ok trace) :
    trace.commands = finalLength s n := by
  obtain ⟨after, expanded, _⟩ := expand_total_correct current n s.seed
  have evaluated : s.reset.evaluate o.iterations = .ok ⟨after, s.seed, s.rules.generation n s.seed⟩ :=
    bind_ok.mpr ⟨n, counted, bind_ok.mpr ⟨_, expanded, rfl⟩⟩
  rw [Derivation.trace, evaluated] at traced
  obtain ⟨turtle, _, traced⟩ := bind_ok.mp traced
  obtain ⟨count, completes, traced⟩ := bind_ok.mp traced
  cases traced
  exact render_count completes

theorem draw_commands {s : Derivation} (current : Current s.rules) {o : DrawOptions K} {n : Nat}
    (counted : generationCount o.trace.iterations = .ok n) {drawn : Drawn K} (drew : (s.draw o).2 = .ok drawn) :
    drawn.commands = finalLength s n := by
  rw [Derivation.draw] at drew
  cases chosen : o.chosenFormat with
  | error failure =>
    rw [chosen] at drew
    cases drew
  | ok format =>
    rw [chosen] at drew
    obtain ⟨trace, traced, drew⟩ := bind_ok.mp drew
    obtain ⟨steps, _, drew⟩ := bind_ok.mp drew
    obtain ⟨image, _, drew⟩ := bind_ok.mp drew
    cases drew
    exact trace_commands current counted traced

theorem drawFile_drawn {s left : Derivation} {o : DrawOptions K} {files written : FileTree (Image K)} {drawn : Drawn K}
    (drew : s.drawFile o files = (left, written, .ok drawn)) : (s.draw o).2 = .ok drawn := by
  rw [Derivation.drawFile] at drew
  cases result : (s.draw o).2 with
  | error failure =>
    simp only [result] at drew
    cases drew
  | ok found =>
    cases named : o.fileName with
    | none =>
      simp only [result, named] at drew
      cases drew
      rfl
    | some path =>
      cases wrote : found.image.write path files with
      | ok tree =>
        simp only [result, named, wrote] at drew
        cases drew
        rfl
      | error failed =>
        simp only [result, named, wrote] at drew
        cases drew

end

/-! ### What a service reports -/

/-- A response to a granted request carries what was granted, unless it cannot be written. -/
theorem granted_content {v : Value} (answered : (Response.granted v).status = 200) : (Response.granted v).content = .json v := by
  rw [Response.granted, Response.json] at answered ⊢
  by_cases encodable : v.encodable = true
  · rw [if_pos encodable]
  · rw [if_neg encodable] at answered
    cases answered

theorem ofFailure_status (f : Failure) : (Response.ofFailure f).status ≠ 200 := by
  have json (status : Nat) (cache : Option String) (v : Value) (other : status ≠ 200) :
      (Response.json status cache v).status ≠ 200 := by
    rw [Response.json]
    split
    · exact other
    · decide
  rw [Response.ofFailure]
  split
  · exact json _ _ _ (by decide)
  · exact json _ _ _ (by decide)
  · exact json _ _ _ (by decide)
  · decide

theorem save_reported {service : Service} {payload : Value} {found : Derivation} {params : DrawParams Float} {n : Nat}
    (accepted : Payload.resolve service.settings payload = .ok (found, params)) (counted : generations params = .ok n)
    (answered : (service.save payload).2.status = 200) :
    ∃ name, (service.save payload).2.content = .json (.record [("file", .text name), ("commands", .int (finalLength found n))]) := by
  rw [Service.save] at answered ⊢
  cases named : Service.savedName payload with
  | error failure =>
    rw [named] at answered
    exact absurd answered (ofFailure_status failure)
  | ok name =>
    -- The service resolves the payload by itself; it comes to the system that was accepted.
    have request : (do
        let name ← Except.ok name
        return (name, ← Payload.resolve service.settings payload)) =
          (.ok (name, found, params) : Except Failure (Text × Derivation × DrawParams Float)) :=
      bind_ok.mpr ⟨name, rfl, bind_ok.mpr ⟨_, accepted, rfl⟩⟩
    rw [named, request] at answered
    rw [request]
    dsimp only at answered ⊢
    generalize drew : found.drawFile
      { DrawOptions.usual (params.options none) with fileName := some (service.pathOf name) } service.files = outcome at answered ⊢
    obtain ⟨left, files, result⟩ := outcome
    cases result with
    | error failure => exact absurd answered (ofFailure_status failure)
    | ok drawn =>
      have same : drawn.commands = finalLength found n := by
        have asked : generationCount ({ DrawOptions.usual (params.options none) with
          fileName := some (service.pathOf name) } : DrawOptions Float).trace.iterations = .ok n := counted
        exact draw_commands (resolve_spelled accepted).current asked (drawFile_drawn drew)
      refine ⟨name, ?_⟩
      rw [← same]
      exact granted_content answered

theorem expand_reported {service : Service} {payload : Value} {found : Derivation} {params : DrawParams Float} {n : Nat}
    (accepted : Payload.resolve service.settings payload = .ok (found, params)) (counted : generations params = .ok n) :
    ∃ text, Sequence.ofText text = found.rules.generation n found.seed ∧ service.expand payload =
      .ok (.granted (.record [("state", .text text), ("length", .int (finalLength found n))])) := by
  have requested := resolve_spelled accepted
  obtain ⟨text, read, same⟩ := toText_spelled (generation_spelled requested.rules n requested.seed)
  obtain ⟨start, seed, spelled⟩ := toText_spelled requested.seed
  have state : found.rules.textAfter start (params.iterations.getD DrawParams.usualIterations) = .ok text := by
    obtain ⟨after, expanded, _⟩ := expand_total_correct requested.current n found.seed
    refine bind_ok.mpr ⟨n, counted, bind_ok.mpr ⟨found.seed, congrArg Except.ok spelled, ?_⟩⟩
    exact bind_ok.mpr ⟨_, expanded, read⟩
  have long : finalLength found n = text.length := by
    rw [finalLength, ← same, Sequence.ofText, List.length_map]
  refine ⟨text, same, bind_ok.mpr ⟨_, accepted, bind_ok.mpr ⟨start, seed, bind_ok.mpr ⟨text, state, ?_⟩⟩⟩⟩
  rw [long]
  rfl

/-! ### Main statements -/

/-- What is counted of a system when a value of generations is accepted. -/
structure Counted (settings : Settings) (s : Derivation) (iterations : Value) (n : Nat) : Prop where
  asked : generationCount iterations = .ok n
  within : finalLength s n ≤ settings.maxSymbols
  expands : ∃ result after, s.rules.expand n s.seed = .ok (result, after) ∧ result.length = finalLength s n
  /-- A trace that succeeds counts as many symbols. -/
  traces : ∀ {K : Type} [Scalar K] (o : TraceOptions K) trace, o.iterations = iterations → (s.trace o).2 = .ok trace →
    trace.commands = finalLength s n

/-- What a service reports of the system of an accepted request. -/
structure Reported (service : Service) (payload : Value) (s : Derivation) (n : Nat) : Prop where
  /-- Expanding reports the text of the last generation and its length. -/
  expands : ∃ text, Sequence.ofText text = s.rules.generation n s.seed ∧ service.expand payload =
    .ok (.granted (.record [("state", .text text), ("length", .int (finalLength s n))]))
  /-- Saving reports its length if it succeeds. -/
  saves : (service.save payload).2.status = 200 → ∃ name, (service.save payload).2.content =
    .json (.record [("file", .text name), ("commands", .int (finalLength s n))])

theorem accepted_counted {settings : Settings} {s : Derivation} (current : Current s.rules) {iterations : Value}
    (accepted : Payload.checkLimits settings s iterations = .ok ()) : ∃ n, Counted settings s iterations n := by
  obtain ⟨n, asked, _, within⟩ := (checkLimits_ok settings s iterations).mp accepted
  obtain ⟨after, expanded, _⟩ := expand_total_correct current n s.seed
  refine ⟨n, asked, within, ⟨_, after, expanded, rfl⟩, fun o trace same traced => ?_⟩
  exact trace_commands current (same ▸ asked) traced

/-- The check refuses a value of generations as too large just if it is an integer above its limit or the
    last generation is above the limit on symbols (and its length can be written), rejects just what is
    no natural number (and can be shown), and accepts the rest. Of an accepted system the trace, the saved file and the
    expansion report one number, the length of the last generation, and it is within the limit. -/
theorem limits_judged (settings : Settings) (positive : 0 < settings.maxIterations) :
    (∀ s iterations, Verdict.ofOutcome (Payload.checkLimits settings s iterations) = verdict settings s iterations) ∧
    (∀ s iterations, Current s.rules → Payload.checkLimits settings s iterations = .ok () → ∃ n, Counted settings s iterations n) ∧
    ∀ service payload s params, service.settings = settings → Payload.resolve settings payload = .ok (s, params) →
      ∃ n, Counted settings s (params.iterations.getD DrawParams.usualIterations) n ∧ Reported service payload s n := by
  refine ⟨checkLimits_verdict positive, fun s iterations current => accepted_counted current, ?_⟩
  rintro service payload s params rfl accepted
  have current := (resolve_spelled accepted).current
  obtain ⟨n, asked, few, last⟩ := resolve_checked accepted
  have checked := (checkLimits_ok service.settings s _).mpr ⟨n, asked, few, last⟩
  obtain ⟨m, counted⟩ := accepted_counted current checked
  exact ⟨m, counted, expand_reported accepted counted.asked, save_reported accepted counted.asked⟩

/-- With a limit of three generations, two of a doubling symbol are accepted and counted, four are too many,
    and a truth value is rejected. -/
theorem small_limits_judged :
    let settings : Settings := { maxIterations := 3, maxSymbols := 7 }
    let s : Derivation := .start ⟨[(70, [70, 70])], none⟩ [70]
    0 < settings.maxIterations ∧ Verdict.ofOutcome (Payload.checkLimits settings s (.int 4)) = .tooLarge ∧
      Verdict.ofOutcome (Payload.checkLimits settings s (.bool true)) = .rejected ∧ ∃ n, Counted settings s (.int 2) n := by
  intro settings s
  have positive : 0 < settings.maxIterations := by decide
  obtain ⟨verdicts, counts, _⟩ := limits_judged settings positive
  have two : Payload.checkLimits settings s (.int 2) = .ok () :=
    (checkLimits_ok settings s (.int 2)).mpr ⟨2, generationCount_natural (by decide +kernel), by decide, by decide⟩
  refine ⟨positive, ?_, ?_, counts s (.int 2) (current_fresh _) two⟩
  · rw [verdicts, verdict, if_pos (by decide)]
  · rw [verdicts]
    rfl

/-! ### Lengths that cannot be written -/

/-- A symbol that is doubled in every generation. -/
def doubling : Derivation := .start ⟨[(70, [70, 70])], none⟩ [70]

theorem doubling_generation (n k : Nat) :
    doubling.rules.generation n (List.replicate k 70) = List.replicate (k * 2 ^ n) 70 := by
  induction n generalizing k with
  | zero => rw [pow_zero, Nat.mul_one]; rfl
  | succ n ih =>
    have image : doubling.rules.image 70 = List.replicate 2 70 := rfl
    have produced : doubling.rules.produce (List.replicate k 70) = List.replicate (k * 2) 70 := by
      rw [RuleTable.produce, List.flatMap_replicate, image, List.flatten_replicate_replicate]
    rw [RuleTable.generation, produced, ih, pow_succ', Nat.mul_assoc]

theorem doubling_length (n : Nat) : finalLength doubling n = 2 ^ n := by
  have expanded := doubling_generation n 1
  rw [Nat.one_mul] at expanded
  change (doubling.rules.generation n (List.replicate 1 70)).length = 2 ^ n
  rw [expanded, List.length_replicate]

/-- Ten doublings give three digits, so after enough of them the length cannot be written. -/
theorem doubled_unwritable {doublings : Nat} (k : Nat) (few : Text.digitLimit ≤ 3 * k) (many : 10 * k ≤ doublings) :
    ¬ Writable (2 ^ doublings) := by
  have digits : 10 ^ (3 * k) ≤ 2 ^ (10 * k) := by
    rw [pow_mul, pow_mul]
    exact Nat.pow_le_pow_left (by decide) k
  rw [Writable, Nat.not_lt]
  generalize Text.digitLimit = limit at few ⊢
  exact ((Nat.pow_le_pow_right (by decide) few).trans digits).trans (Nat.pow_le_pow_right (by decide) many)

/-- Fifteen thousand generations of a doubling symbol are above a limit of a thousand symbols, but their
    length has too many digits for the verdict to be given. -/
theorem unwritable_length :
    ¬ ∀ settings s iterations, 0 < settings.maxIterations → 0 < settings.maxSymbols →
      (Verdict.ofOutcome (Payload.checkLimits settings s iterations) = .tooLarge ↔
        ∃ m, iterations = .int m ∧ (settings.maxIterations < m ∨
          0 ≤ m ∧ m ≤ settings.maxIterations ∧ settings.maxSymbols < finalLength s m.toNat)) := by
  intro claimed
  let settings : Settings := { maxIterations := 20000, maxSymbols := 1000 }
  have long : finalLength doubling (Int.toNat 15000) = 2 ^ 15000 := doubling_length 15000
  have unwritten : ¬ Writable (finalLength doubling (Int.toNat 15000)) := by
    rw [long]
    exact doubled_unwritable 1500 (by decide) (by decide)
  have above : settings.maxSymbols < (finalLength doubling (Int.toNat 15000) : Int) := by
    have more (n : Nat) : n < 2 ^ n := Nat.lt_two_pow_self
    have bound : settings.maxSymbols < (15000 : Nat) := by decide
    rw [long]
    exact bound.trans (Int.ofNat_lt.mpr (more 15000))
  have refused := (claimed settings doubling (.int 15000) (by decide) (by decide)).mpr
    ⟨15000, rfl, .inr ⟨by decide, by decide, above⟩⟩
  rw [checkLimits_verdict (by decide)] at refused
  have counted : generationCount (.int 15000) = .ok (Int.toNat 15000) := generationCount_natural (by decide +kernel)
  have failed : verdict settings doubling (.int 15000) = .failed := by
    rw [verdict_counted (by decide) doubling counted, lengthVerdict, if_neg (Int.not_le.mpr above), if_neg unwritten]
  rw [failed] at refused
  cases refused

end Lindenmayer.Verdicts
