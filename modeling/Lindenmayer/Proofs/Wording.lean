import Lindenmayer.Proofs.Displays
import Lindenmayer.Proofs.Keys
import Lindenmayer.Proofs.Lengths
import Lindenmayer.Proofs.Verdicts

/-!
Texts of generations. Every text, surrogates in it or not, is the text of its own symbols, and a sequence has a text
just if all its symbols are characters (`toText_ok`, `toText_refused`). So a text that is expanded fails for want of
a text just if the last generation has a symbol beyond the characters (`text_worded`). The rules of a request are
between characters, and rewriting by them is replacing characters by texts (`produce_rewritten`), so an accepted
request never fails so, and is answered with the seed's text rewritten as often as it asks (`request_answered`).
-/
namespace Lindenmayer.Wording
open Outcomes Rewriting Keys Displays Requests Limits

/-- What a character becomes by rules between characters: the text of its last rule, or itself. -/
def becomes (rules : List (CodePoint × Text)) (c : CodePoint) : Text :=
  ((rules.reverse.find? (·.1 == c)).map Prod.snd).getD [c]

/-- A text with every character replaced by what it becomes. -/
def rewritten (rules : List (CodePoint × Text)) (text : Text) : Text := text.flatMap (becomes rules)

/-! ### Tables -/

theorem expand_toText {t : RuleTable} (current : Current t) (text : Text) (n : Nat) :
    (do (← t.expand n (Sequence.ofText text)).1.toText) = (t.generation n (Sequence.ofText text)).toText := by
  obtain ⟨after, expanded, _⟩ := expand_total_correct current n (Sequence.ofText text)
  rw [expanded]
  rfl

theorem textAfter_toText {t : RuleTable} (current : Current t) (text : Text) {generations : Value} {n : Nat}
    (counted : generationCount generations = .ok n) :
    t.textAfter text generations = (t.generation n (Sequence.ofText text)).toText := by
  rw [RuleTable.textAfter, counted]
  exact expand_toText current text n

/-- Expanding with a value of rules is expanding with the table that they make. -/
theorem expandText_toText {rules generations : Value} {t : RuleTable} {n : Nat} (built : RuleTable.ofValue rules = .ok t)
    (text : Text) (counted : generationCount generations = .ok n) :
    expandText (.text text) rules generations = (t.generation n (Sequence.ofText text)).toText := by
  rw [expandText, Lengths.expandValue_rounds, counted, built]
  rfl

/-! ### Rules between characters -/

theorem ofRules_get? (rules : List (Symbol × Sequence)) (s : Symbol) :
    (RuleTable.ofRules rules).get? s = (rules.reverse.find? (·.1 == s)).map Prod.snd := by
  induction rules using List.reverseRecOn with
  | nil => rfl
  | append_singleton before rule ih =>
    rw [RuleTable.ofRules] at ih ⊢
    rw [List.foldl_append, List.foldl_cons, List.foldl_nil, List.reverse_append, List.reverse_singleton, List.singleton_append,
      List.find?_cons]
    refine (replacement?_insertRule rule.1 rule.2 _ s).trans ?_
    by_cases same : rule.1 = s
    · simp [same]
    · rw [if_neg same, beq_eq_false_iff_ne.mpr same]
      exact ih

theorem table_get? (rules : List (CodePoint × Text)) (c : CodePoint) :
    (table rules).get? (Symbol.ofCodePoint c) = ((rules.reverse.find? (·.1 == c)).map Prod.snd).map Sequence.ofText := by
  have named : ((fun r : Symbol × Sequence => r.1 == Symbol.ofCodePoint c) ∘ fun r : CodePoint × Text =>
      (Symbol.ofCodePoint r.1, Sequence.ofText r.2)) = fun r => r.1 == c := by
    funext r
    exact Bool.eq_iff_iff.mpr (by simp [ofCodePoint_injective.eq_iff])
  rw [table, ofRules_get?, ← List.map_reverse, List.find?_map, named, Option.map_map, Option.map_map]
  rfl

theorem table_image (rules : List (CodePoint × Text)) (c : CodePoint) :
    (table rules).image (Symbol.ofCodePoint c) = Sequence.ofText (becomes rules c) := by
  rw [RuleTable.image, table_get?, becomes]
  cases (rules.reverse.find? (·.1 == c)).map Prod.snd with
  | some text => rfl
  | none => rfl

/-- One round of the rules of a table between characters replaces the characters of a text. -/
theorem produce_rewritten (rules : List (CodePoint × Text)) :
    Function.Semiconj Sequence.ofText (rewritten rules) (table rules).produce := by
  intro text
  induction text with
  | nil => rfl
  | cons c rest ih =>
    calc Sequence.ofText (rewritten rules (c :: rest))
      _ = Sequence.ofText (becomes rules c) ++ Sequence.ofText (rewritten rules rest) := List.map_append
      _ = (table rules).image (Symbol.ofCodePoint c) ++ (table rules).produce (Sequence.ofText rest) := by
        rw [table_image, ih]
      _ = (table rules).produce (Sequence.ofText (c :: rest)) := rfl

theorem generation_rewritten (rules : List (CodePoint × Text)) (n : Nat) (text : Text) :
    (table rules).generation n (Sequence.ofText text) = Sequence.ofText ((rewritten rules)^[n] text) := by
  rw [generation_iterate]
  exact ((produce_rewritten rules).iterate_right n text).symm

/-! ### Main statements -/

/-- What a sequence has for a text: one just if all its symbols are characters, and then the sequence is read from
    it again. -/
structure Transcribed (sequence : Sequence) : Prop where
  exactly : (∃ text, sequence.toText = .ok text) ↔ ∀ s ∈ sequence, s.toNat ≤ 0x10FFFF
  back : ∀ text, sequence.toText = .ok text → Sequence.ofValue (.text text) = .ok sequence
  refused : (∃ s ∈ sequence, 0x10FFFF < s.toNat) → sequence.toText = .error .noStringForm

/-- What expanding a text for so many generations comes to: the text of the last generation, or a failure just if
    that has a symbol beyond the characters. -/
structure Worded (t : RuleTable) (text : Text) (n : Nat) (outcome : Except Failure Text) : Prop where
  fails : outcome = .error .noStringForm ↔ ∃ s ∈ t.produce^[n] (Sequence.ofText text), 0x10FFFF < s.toNat
  succeeds : ∀ state, outcome = .ok state ↔ Sequence.ofText state = t.produce^[n] (Sequence.ofText text)
  either : (∃ state, outcome = .ok state) ∨ outcome = .error .noStringForm

/-- What a request for the state of a system is answered with: the text of the seed, rewritten by the rules that are
    asked for as often as is asked for, and the number of its characters. The texts of the seed and of the state
    are always there; that a lone surrogate cannot be sent is for `Response.granted` to say. -/
structure Answered (service : Service) (payload : Value) (found : Derivation) (params : DrawParams Float)
    (rules : List (CodePoint × Text)) (seed state : Text) (n : Nat) : Prop where
  asks : Asks payload rules seed
  counted : generations params = .ok n
  seeded : found.seed.toText = .ok seed
  expanded : found.rules.textAfter seed (params.iterations.getD DrawParams.usualIterations) = .ok state
  replaced : state = (rewritten rules)^[n] seed
  long : state.length = found.rules.expandedLength n found.seed
  answer : service.expand payload = .ok (.granted (.record [("state", .text state), ("length", .int state.length)]))

theorem sequence_transcribed (sequence : Sequence) : Transcribed sequence where
  exactly := by
    constructor
    · rintro ⟨text, read⟩ s member
      by_contra beyond
      rw [toText_refused.mpr ⟨s, member, Nat.lt_of_not_le beyond⟩] at read
      cases read
    · intro within
      refine (toText_outcome sequence).resolve_right fun refused => ?_
      obtain ⟨s, member, beyond⟩ := toText_refused.mp refused
      exact absurd (within s member) (Nat.not_le_of_lt beyond)
  back text read := congrArg Except.ok (toText_ok.mp read)
  refused := toText_refused.mpr

theorem text_worded (t : RuleTable) (text : Text) (n : Nat) : Worded t text n (t.generation n (Sequence.ofText text)).toText := by
  rw [generation_iterate]
  exact ⟨toText_refused, fun state => toText_ok, toText_outcome _⟩

theorem request_answered {service : Service} {payload : Value} {found : Derivation} {params : DrawParams Float}
    (accepted : Payload.resolve service.settings payload = .ok (found, params)) :
    ∃ rules seed state n, Answered service payload found params rules seed state n := by
  obtain ⟨rules, seed, asks, rfl⟩ := resolve_asks accepted
  obtain ⟨n, counted, _⟩ := resolve_checked accepted
  obtain ⟨state, same, answer⟩ := Verdicts.expand_reported accepted counted
  have current : Current (table rules) := ofRules_current _
  have last : Sequence.ofText state = (table rules).generation n (Sequence.ofText seed) := same
  have long : state.length = ((table rules).generation n (Sequence.ofText seed)).length := by
    rw [← last, Sequence.ofText, List.length_map]
  refine ⟨rules, seed, state, n, ?_⟩
  exact {
    asks := asks
    counted := counted
    seeded := toText_ofText seed
    expanded := (textAfter_toText current seed counted).trans (toText_ok.mpr last)
    replaced := ofText_injective (last.trans (generation_rewritten rules n seed))
    long := long.trans (Counting.expandedLength_total_correct (table rules) n (Sequence.ofText seed)).symm
    answer := by
      rw [long]
      exact answer }

/-- Texts and sequences of characters are read from each other, every text surviving, so expanding a text for any
    number of generations fails for want of a text just if the last generation has a symbol beyond the characters,
    by a table that is there as by a value of rules. The state that an accepted request asks for never fails so: it
    is the text of the seed with every character replaced as often as it asks. -/
theorem states_worded :
    (∀ text : Text, (do (← Sequence.ofValue (.text text)).toText) = .ok text) ∧
    (∀ sequence : Sequence, Transcribed sequence) ∧
    (∀ t text n, Current t → Worded t text n (do (← t.expand n (Sequence.ofText text)).1.toText)) ∧
    (∀ t text given n, Current t → generationCount given = .ok n → Worded t text n (t.textAfter text given)) ∧
    (∀ rules t text given n, RuleTable.ofValue rules = .ok t → generationCount given = .ok n →
      Worded t text n (expandText (.text text) rules given)) ∧
    ∀ service payload found params, Payload.resolve service.settings payload = .ok (found, params) →
      ∃ rules seed state n, Answered service payload found params rules seed state n := by
  refine ⟨toText_ofText, sequence_transcribed, fun t text n current => ?_, fun t text given n current counted => ?_,
    fun rules t text given n built counted => ?_, ?_⟩
  · rw [expand_toText current]
    exact text_worded t text n
  · rw [textAfter_toText current text counted]
    exact text_worded t text n
  · rw [expandText_toText built text counted]
    exact text_worded t text n
  · exact fun service payload found params => request_answered

theorem start_settings (settings : Settings) : (Service.start settings).settings = settings := by
  rw [Service.start]
  split
  · rfl
  · rfl

/-- Two generations by a table come to a symbol beyond the characters, and an accepted request brings in a lone
    surrogate, which its state has twice. -/
theorem surrogates_worded :
    let t : RuleTable := ⟨[(65, [66]), (66, [0x110000])], none⟩
    let service := Service.start Settings.usual
    let payload := request (fieldsOf [(65, [65, 0xD800])]) [65] 2
    Current t ∧ t.textAfter [65] (.int 2) = .error .noStringForm ∧
      ∃ found params rules seed n, Payload.resolve service.settings payload = .ok (found, params) ∧
        Answered service payload found params rules seed [65, 0xD800, 0xD800] n := by
  intro t service payload
  obtain ⟨-, -, -, tables, -, requests⟩ := states_worded
  have current : Current t := current_fresh _
  have two : generationCount (.int 2) = .ok 2 := generationCount_natural (by decide +kernel)
  have failed : t.textAfter [65] (.int 2) = .error .noStringForm :=
    (tables t [65] (.int 2) 2 current two).fails.mpr ⟨0x110000, by decide, by decide⟩
  let u := table [(65, [65, 0xD800])]
  have built : RuleTable.ofValue (.object (fieldsOf [(65, [65, 0xD800])])) = .ok u := rfl
  have checked : Payload.checkLimits service.settings (.start u (Sequence.ofText [65])) (.int 2) = .ok () := by
    rw [start_settings]
    exact (checkLimits_ok Settings.usual _ (.int 2)).mpr ⟨2, two, by decide, by decide⟩
  obtain ⟨params, accepted, asked⟩ := resolve_request rfl built checked
  obtain ⟨rules, seed, state, n, answered⟩ := requests service payload _ params accepted
  have start : seed = [65] := Except.ok.inj (answered.seeded.symm.trans (toText_ofText [65]))
  have twice : u.textAfter [65] (.int 2) = .ok [65, 0xD800, 0xD800] := textAfter_toText (ofRules_current _) [65] two
  have last : state = [65, 0xD800, 0xD800] := by
    have expanded := answered.expanded
    rw [asked, start] at expanded
    exact Except.ok.inj (expanded.symm.trans twice)
  exact ⟨current, failed, _, params, rules, seed, n, accepted, last ▸ answered⟩

end Lindenmayer.Wording
