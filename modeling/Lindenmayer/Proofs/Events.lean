import Mathlib.Data.List.Induction
import Lindenmayer.Proofs.Effects
import Lindenmayer.Proofs.Keys

/-!
What befalls rules, as events. A history of them says what rules it leaves: of each symbol the replacement that was put
last, unless it was dropped later, and the symbols in the order of the first puts that no drop undid
(`left_recorded`). Values give events, and rules are made and edited just as the events of the values say
(`ofValue_given`, `replay_event`).
-/
namespace Lindenmayer.Events
open Outcomes Keys Effects RuleTable Index

/-- What befalls the rule of a symbol. It makes no difference to drop a symbol that has none. -/
inductive Event where
  | put (s : Symbol) (replacement : Sequence)
  | drop (s : Symbol)

/-- The symbol that an event is about. -/
def Event.symbol : Event → Symbol
  | .put s _ | .drop s => s

/-- Rules after an event. -/
def Event.on (rules : List (Symbol × Sequence)) : Event → List (Symbol × Sequence)
  | .put s replacement => insertRule s replacement rules
  | .drop s => without s rules

/-- The symbol was put at a place of the history, and not dropped since. -/
def Stays (history : List Event) (s : Symbol) (i : Nat) : Prop :=
  (∃ replacement, history[i]? = some (.put s replacement)) ∧ ∀ j, i < j → history[j]? ≠ some (.drop s)

/-- The replacement was put for the symbol, and nothing befell the symbol since. -/
def Latest (history : List Event) (s : Symbol) (replacement : Sequence) : Prop :=
  ∃ i : Nat, history[i]? = some (.put s replacement) ∧ ∀ j e, i < j → history[j]? = some e → e.symbol ≠ s

/-- Rules are those of a history: of each symbol that stays the latest replacement, in the order in which the
    symbols were first put to stay. -/
structure Recorded (history : List Event) (rules : List (Symbol × Sequence)) : Prop where
  present : ∀ s, s ∈ rules.map Prod.fst ↔ ∃ i, Stays history s i
  order : (rules.map Prod.fst).Pairwise fun a b => ∃ i, Stays history a i ∧ ∀ j, Stays history b j → i < j
  latest : ∀ s replacement, replacement? rules s = some replacement ↔ Latest history s replacement

/-! ### One event more -/

section
variable {history : List Event} {rules : List (Symbol × Sequence)} {e : Event} {s : Symbol} {replacement : Sequence}

private theorem read_snoc {x : Event} {i : Nat} :
    (history ++ [e])[i]? = some x ↔ history[i]? = some x ∨ i = history.length ∧ e = x := by
  rw [List.getElem?_append]
  by_cases inside : i < history.length
  · have before : i ≠ history.length := Nat.ne_of_lt inside
    simp [inside, before]
  · have beyond : history[i]? = none := List.getElem?_eq_none (Nat.le_of_not_lt inside)
    rw [if_neg inside, beyond, List.getElem?_singleton]
    by_cases last : i = history.length
    · simp [last]
    · have further : i - history.length ≠ 0 := by omega
      simp [last, further]

private theorem read_inside {x : Event} {i : Nat} (found : history[i]? = some x) : i < history.length :=
  (List.getElem?_eq_some_iff.mp found).1

theorem stays_snoc {i : Nat} : Stays (history ++ [e]) s i ↔
    Stays history s i ∧ e ≠ .drop s ∨ i = history.length ∧ ∃ replacement, e = .put s replacement := by
  constructor
  · rintro ⟨⟨replacement, found⟩, undropped⟩
    rcases read_snoc.mp found with former | ⟨last, new⟩
    · refine .inl ⟨⟨⟨replacement, former⟩, fun j after dropped => ?_⟩, fun dropped => ?_⟩
      · exact undropped j after (read_snoc.mpr (.inl dropped))
      · exact undropped history.length (read_inside former) (read_snoc.mpr (.inr ⟨rfl, dropped⟩))
    · exact .inr ⟨last, replacement, new⟩
  · rintro (⟨⟨⟨replacement, found⟩, undropped⟩, other⟩ | ⟨rfl, replacement, rfl⟩)
    · refine ⟨⟨replacement, read_snoc.mpr (.inl found)⟩, fun j after dropped => ?_⟩
      rcases read_snoc.mp dropped with former | ⟨_, new⟩
      · exact undropped j after former
      · exact other new
    · refine ⟨⟨replacement, read_snoc.mpr (.inr ⟨rfl, rfl⟩)⟩, fun j after dropped => ?_⟩
      rcases read_snoc.mp dropped with former | ⟨last, _⟩
      · exact Nat.lt_asymm after (read_inside former)
      · exact Nat.ne_of_gt after last

theorem latest_snoc : Latest (history ++ [e]) s replacement ↔
    Latest history s replacement ∧ e.symbol ≠ s ∨ e = .put s replacement := by
  constructor
  · rintro ⟨i, found, quiet⟩
    rcases read_snoc.mp found with former | ⟨_, new⟩
    · refine .inl ⟨⟨i, former, fun j x after standing => ?_⟩, ?_⟩
      · exact quiet j x after (read_snoc.mpr (.inl standing))
      · exact quiet history.length e (read_inside former) (read_snoc.mpr (.inr ⟨rfl, rfl⟩))
    · exact .inr new
  · rintro (⟨⟨i, found, quiet⟩, other⟩ | rfl)
    · refine ⟨i, read_snoc.mpr (.inl found), fun j x after standing => ?_⟩
      rcases read_snoc.mp standing with former | ⟨_, rfl⟩
      · exact quiet j x after former
      · exact other
    · refine ⟨history.length, read_snoc.mpr (.inr ⟨rfl, rfl⟩), fun j x after standing => ?_⟩
      rcases read_snoc.mp standing with former | ⟨last, _⟩
      · exact absurd (read_inside former) (Nat.lt_asymm after)
      · exact absurd last (Nat.ne_of_gt after)

theorem nil_recorded : Recorded [] [] where
  present s := by simp [Stays]
  order := List.Pairwise.nil
  latest s replacement := by simp [Latest, replacement?]

theorem put_recorded (recorded : Recorded history rules) (s : Symbol) (replacement : Sequence) :
    Recorded (history ++ [.put s replacement]) (insertRule s replacement rules) where
  present k := by
    rw [mem_keys_insertRule, recorded.present]
    constructor
    · rintro (⟨i, stays⟩ | rfl)
      · exact ⟨i, stays_snoc.mpr (.inl ⟨stays, nofun⟩)⟩
      · exact ⟨history.length, stays_snoc.mpr (.inr ⟨rfl, replacement, rfl⟩)⟩
    · rintro ⟨i, stays⟩
      rcases stays_snoc.mp stays with ⟨former, _⟩ | ⟨_, _, new⟩
      · exact .inl ⟨i, former⟩
      · cases new
        exact .inr rfl
  order := by
    -- A put behind all others comes later than whatever stays.
    have kept : (rules.map Prod.fst).Pairwise fun a b => ∃ i, Stays (history ++ [.put s replacement]) a i ∧
        ∀ j, Stays (history ++ [.put s replacement]) b j → i < j := by
      refine recorded.order.imp ?_
      rintro a b ⟨i, stays, first⟩
      refine ⟨i, stays_snoc.mpr (.inl ⟨stays, nofun⟩), fun j later => ?_⟩
      rcases stays_snoc.mp later with ⟨former, _⟩ | ⟨rfl, _⟩
      · exact first j former
      · obtain ⟨⟨_, found⟩, _⟩ := stays
        exact read_inside found
    rw [keys_insertRule]
    by_cases member : s ∈ rules.map Prod.fst
    · rwa [if_pos member]
    · rw [if_neg member]
      refine List.pairwise_append.mpr ⟨kept, List.pairwise_singleton _ _, fun a former b new => ?_⟩
      cases List.mem_singleton.mp new
      obtain ⟨i, stays⟩ := (recorded.present a).mp former
      refine ⟨i, stays_snoc.mpr (.inl ⟨stays, nofun⟩), fun j later => ?_⟩
      rcases stays_snoc.mp later with ⟨standing, _⟩ | ⟨rfl, _⟩
      · exact absurd ((recorded.present s).mpr ⟨j, standing⟩) member
      · obtain ⟨⟨_, found⟩, _⟩ := stays
        exact read_inside found
  latest k given := by
    rw [replacement?_insertRule, latest_snoc, ← recorded.latest]
    by_cases here : s = k
    · simp [here, Event.symbol]
    · simp [here, Event.symbol]

theorem drop_recorded (recorded : Recorded history rules) (s : Symbol) :
    Recorded (history ++ [.drop s]) (without s rules) := by
  have kept {k : Symbol} {i : Nat} : Stays (history ++ [.drop s]) k i ↔ Stays history k i ∧ k ≠ s := by
    rw [stays_snoc]
    constructor
    · rintro (⟨stays, other⟩ | ⟨_, _, impossible⟩)
      · exact ⟨stays, fun same => other (same ▸ rfl)⟩
      · cases impossible
    · rintro ⟨stays, other⟩
      exact .inl ⟨stays, fun same => other (Event.drop.inj same).symm⟩
  exact {
    present := fun k => by
      simp only [keys_without, List.mem_filter, bne_iff_ne, recorded.present, kept, exists_and_right]
    order := by
      rw [keys_without]
      refine (recorded.order.filter _).imp_of_mem fun {a b} first _ before => ?_
      obtain ⟨i, stays, least⟩ := before
      have other : a ≠ s := bne_iff_ne.mp (List.mem_filter.mp first).2
      exact ⟨i, kept.mpr ⟨stays, other⟩, fun j later => least j (kept.mp later).1⟩
    latest := fun k given => by
      rw [replacement?_without, latest_snoc, ← recorded.latest]
      by_cases here : s = k
      · simp [here, Event.symbol]
      · simp [here, Event.symbol] }

/-- What events leave of no rules at all are the rules of their history. -/
theorem left_recorded (history : List Event) : Recorded history (history.foldl Event.on []) := by
  induction history using List.reverseRecOn with
  | nil => exact nil_recorded
  | append_singleton before e ih =>
    rw [List.foldl_append]
    cases e with
    | put s replacement => exact put_recorded ih s replacement
    | drop s => exact drop_recorded ih s

theorem Recorded.distinct (recorded : Recorded history rules) : (rules.map Prod.fst).Nodup := by
  refine recorded.order.imp ?_
  rintro a b ⟨i, stays, first⟩ rfl
  exact Nat.lt_irrefl i (first i stays)

end

/-! ### Events from values -/

/-- The event that it is to set a rule, if its key is a symbol and its replacement a sequence. -/
def Event.setting (key replacement : Value) : Option Event :=
  match Symbol.ofValue key, Sequence.ofValue replacement with
  | .ok s, .ok sequence => some (.put s sequence)
  | _, _ => none

/-- The event that an edit is. -/
def Event.ofEdit : Edit → Option Event
  | .set key replacement => setting key replacement
  | .erase key => (Symbol.ofValue key).toOption.map .drop

/-- The event that one of a table's rules is, as it is given: a pair of a key and a replacement. -/
def Event.ofRule (rule : Value) : Option Event :=
  match rule.parts? with
  | some [key, replacement] => setting key replacement
  | _ => none

/-- The events of the rules that a value gives, if it gives any and all of them are rules. -/
def given : Value → Option (List Event)
  | .null => some []
  | .object fields => fields.mapM fun f => Event.setting (.text f.1) f.2
  | v => v.parts?.bind (·.mapM Event.ofRule)

/-- An edit does to rules what its event does, and nothing if it is none. -/
theorem replay_event (rules : List (Symbol × Sequence)) (edit : Edit) :
    replay rules edit = (Event.ofEdit edit).toList.foldl Event.on rules := by
  cases edit with
  | set key given =>
    rw [replay, Edit.change, Event.ofEdit, Event.setting, RuleTable.set]
    cases Symbol.ofValue key with
    | error failure => rfl
    | ok s =>
      cases Sequence.ofValue given with
      | error failure => rfl
      | ok sequence => rfl
  | erase key =>
    rw [replay, Edit.change, Event.ofEdit]
    cases named : Symbol.ofValue key with
    | error failure =>
      have failed : RuleTable.erase ⟨rules, none⟩ key = .error failure := by
        rw [RuleTable.erase, named]
        rfl
      rw [failed]
      rfl
    | ok s =>
      by_cases member : s ∈ rules.map Prod.fst
      · have erased : RuleTable.erase ⟨rules, none⟩ key = .ok (RuleTable.remove ⟨rules, none⟩ s) :=
          erase_ok.mpr ⟨s, member, named, rfl⟩
        rw [erased]
        rfl
      · cases erased : RuleTable.erase ⟨rules, none⟩ key with
        | ok after =>
          obtain ⟨k, there, other, _⟩ := erase_ok.mp erased
          cases named.symm.trans other
          exact absurd there member
        | error failure => exact (without_absent member).symm

/-- A rule is set as its event says, and cannot be set where there is none. -/
theorem set_event (t : RuleTable) (key replacement : Value) :
    (t.set key replacement).toOption.map RuleTable.rules = (Event.setting key replacement).map (Event.on t.rules) := by
  rw [RuleTable.set, Event.setting]
  cases Symbol.ofValue key with
  | error failure => rfl
  | ok s =>
    cases Sequence.ofValue replacement with
    | error failure => rfl
    | ok sequence => rfl

theorem parts_ok {rule key replacement : Value} :
    parts rule = .ok (key, replacement) ↔ rule.parts? = some [key, replacement] := by
  rw [parts]
  cases rule.parts? with
  | none => exact ⟨nofun, nofun⟩
  | some items =>
    match items with
    | [_, _] =>
      constructor
      · rintro ⟨⟩
        rfl
      · rintro ⟨⟩
        rfl
    | [] | [_] | _ :: _ :: _ :: _ => exact ⟨nofun, nofun⟩

theorem ofRule_parts {rule key replacement : Value} (taken : parts rule = .ok (key, replacement)) :
    Event.ofRule rule = Event.setting key replacement := by
  rw [Event.ofRule, parts_ok.mp taken]

theorem ofRule_partless {rule : Value} {failure : Failure} (failed : parts rule = .error failure) : Event.ofRule rule = none := by
  rw [Event.ofRule]
  split
  next key replacement consists =>
    rw [parts_ok.mpr consists] at failed
    cases failed
  next => rfl

/-- Rules are set one after the other just if each of them is an event. -/
theorem insertAll_events (rules : List Value) (t : RuleTable) :
    (t.insertAll rules).toOption.map RuleTable.rules =
      (rules.mapM Event.ofRule).map fun events => events.foldl Event.on t.rules := by
  induction rules generalizing t with
  | nil => rfl
  | cons rule rest ih =>
    rw [insertAll, List.mapM_cons]
    cases taken : parts rule with
    | error failure =>
      rw [ofRule_partless taken]
      rfl
    | ok pair =>
      obtain ⟨key, replacement⟩ := pair
      rw [ofRule_parts taken]
      change ((t.set key replacement).bind fun t => t.insertAll rest).toOption.map RuleTable.rules = _
      have first := set_event t key replacement
      cases inserted : t.set key replacement with
      | error failure =>
        rw [inserted] at first
        rw [Option.map_eq_none_iff.mp first.symm]
        rfl
      | ok next =>
        rw [inserted] at first
        obtain ⟨e, event, same⟩ := Option.map_eq_some_iff.mp first.symm
        rw [event]
        refine (ih next).trans ?_
        rw [← same]
        cases rest.mapM Event.ofRule with
        | none => rfl
        | some events => rfl

/-- A table is made of a value just if all rules that it gives are events, and has what they leave of no rules. -/
theorem ofValue_given (v : Value) :
    (RuleTable.ofValue v).toOption.map RuleTable.rules = (given v).map fun events => events.foldl Event.on [] := by
  rw [RuleTable.ofValue, rulesIn.eq_def]
  split
  next => rfl
  next fields =>
    refine (insertAll_events _ .empty).trans ?_
    rw [List.mapM_map]
    rfl
  next notNull notObject =>
    rw [given.eq_3 v notNull notObject]
    split
    next items consists =>
      rw [consists]
      exact insertAll_events items .empty
    next partless =>
      rw [partless]
      rfl

end Lindenmayer.Events
