import Lindenmayer.Proofs.Starting

/-!
Symbols that a pass can do without. A symbol that is no command, a bracket that closes where the stack is empty and an
asterisk without a hook leave a run as it is (`read_idle`). Which brackets these are depends on the run, so `needed`
follows it; the walk of the symbols that remain is the walk of all of them, whether it fails or not (`walk_needed`).
-/
namespace Lindenmayer.Skipping
open Outcomes Sketching Passes Starting

variable {K : Type} [Scalar K]

/-- Whether a symbol does nothing where a run stands. -/
def idle (hook : Option (Hook K)) (r : Run K) (s : Symbol) : Bool :=
  (Command.ofSymbol? s).isNone || (s == .ofChar ']' && r.turtle.stack.isEmpty) || (s == .ofChar '*' && hook.isNone)

/-- The symbols of a sequence but for those that are idle when they are read. Behind a failure nothing is read. -/
def needed (hook : Option (Hook K)) (r : Run K) : Sequence → Sequence
  | [] => []
  | s :: rest =>
    if idle hook r s then needed hook r rest
    else s :: match r.read hook s with
      | .ok next => needed hook next rest
      | .error _ => rest

theorem read_idle {hook : Option (Hook K)} {r : Run K} {s : Symbol} (idles : idle hook r s = true) : r.read hook s = .ok r := by
  rw [idle, Bool.or_eq_true, Bool.or_eq_true, Bool.and_eq_true, Bool.and_eq_true] at idles
  rcases idles with (unknown | ⟨closing, empty⟩) | ⟨asterisk, hookless⟩
  · rw [Run.read, Option.isNone_iff_eq_none.mp unknown]
  · have pop : Command.ofSymbol? s = some .pop := by
      rw [eq_of_beq closing]
      rfl
    simp only [Run.read, pop, Run.obey, Turtle.pop?, List.isEmpty_iff.mp empty]
  · have star : Command.ofSymbol? s = some .asterisk := by
      rw [eq_of_beq asterisk]
      rfl
    simp only [Run.read, star, Run.obey, Option.isNone_iff_eq_none.mp hookless]

theorem walk_needed (hook : Option (Hook K)) (r : Run K) (s : Sequence) : r.walk hook (needed hook r s) = r.walk hook s := by
  induction s generalizing r with
  | nil => rfl
  | cons s rest ih =>
    rw [needed, Run.walk]
    by_cases idles : idle hook r s = true
    · rw [if_pos idles, read_idle idles]
      exact ih r
    · rw [if_neg idles, Run.walk]
      cases r.read hook s with
      | error failed => rfl
      | ok next => exact ih next

/-! ### What is emitted -/

/-- What was emitted stays, and more may come behind it. -/
def Extends (r next : Run K) : Prop := r.emitted.toList <+: next.emitted.toList

omit [Scalar K] in
theorem extends_same {r next : Run K} (same : next.emitted = r.emitted) : Extends r next :=
  ⟨[], by rw [same, List.append_nil]⟩

omit [Scalar K] in
theorem emit_extends (r : Run K) (p : Primitive K) : Extends r (r.emit p) := by
  rw [Extends, Run.emit, Array.toList_push]
  exact List.prefix_append _ _

theorem move_extends {r next : Run K} {distance : K} (moved : r.move distance = .ok next) : Extends r next := by
  obtain ⟨t, _, rfl⟩ := move_ok moved
  exact emit_extends (r.withTurtle t) _

theorem obey_extends {hook : Option (Hook K)} {r next : Run K} {command : Command} (obeyed : r.obey hook command = .ok next) :
    Extends r next := by
  cases command with
  | forward | halfForward => exact move_extends obeyed
  | backward =>
    obtain ⟨middle, moved, rfl⟩ := backward_ok obeyed
    have told := move_extends moved
    exact told
  | halfBackward => exact move_extends (r := r.turn (Scalar.ofInt 180)) obeyed
  | penUp | penDown | randomHue | hueShift | randomSaturation | randomOpacity | penWidth | circle | square =>
    cases obeyed
    exact emit_extends _ _
  | turn | randomTurn | growStep | shrinkStep | nudge | push =>
    cases obeyed
    exact extends_same rfl
  | pop =>
    rcases pop_ok obeyed with ⟨-, rfl⟩ | ⟨t, -, rfl⟩
    · exact extends_same rfl
    · exact emit_extends (r.withTurtle t) _
  | asterisk =>
    cases hook with
    | none =>
      cases obeyed
      exact extends_same rfl
    | some hook =>
      obtain ⟨t, _, rfl⟩ := callHook_ok obeyed
      rw [Extends, Array.toList_append]
      exact List.prefix_append _ _

theorem walk_extends {hook : Option (Hook K)} {r last : Run K} {s : Sequence} (walked : r.walk hook s = .ok last) : Extends r last := by
  induction s generalizing r with
  | nil =>
    cases walked
    exact extends_same rfl
  | cons s rest ih =>
    obtain ⟨next, read, walked⟩ := walk_cons walked
    refine List.IsPrefix.trans ?_ (ih walked)
    rcases read_ok read with ⟨-, rfl⟩ | ⟨command, -, obeyed⟩
    · exact extends_same rfl
    · exact obey_extends obeyed

/-! ### Passes -/

/-- The symbols of a sequence that a pass over it needs. -/
def neededBy (o : Start K) (s : Sequence) : Sequence :=
  match o.run with
  | .ok first => needed o.hook first s
  | .error _ => s

/-- What a pass over a sequence opens with; it does not open for the empty one. -/
def opened (o : Start K) (s : Sequence) : List (Primitive K) := if s = [] then [] else opening o.turtle

theorem walk_drawn {o : Start K} {first last : Run K} {s : Sequence} {drawn : List (Primitive K)} (begun : o.run = .ok first)
    (walked : first.walk o.hook s = .ok last) (emitted : last.emitted.toList = opening o.turtle ++ drawn) :
    (o.pass (.ok s)).emitted.toList = opened o s ++ drawn := by
  by_cases empty : s = []
  · -- the pass has not opened, and its walk has drawn nothing either
    subst empty
    cases walked
    have nothing : drawn = [] := by simpa [(run_begins begun).emitted] using emitted
    rw [empty_emits, opened, if_pos rfl, nothing]
    rfl
  · rw [(walk_reaches begun walked).emitted empty, opened, if_neg empty, emitted]

/-- A pass that completes counts all symbols. Without those that are idle it completes too, with the same turtle, the
    same calls of the hook and the same generator, and it draws the same behind what it opens with. -/
theorem idle_symbols_unseen {o : Start K} {s : Sequence} {n : Nat} (completes : (o.pass (.ok s)).count = .ok n) :
    let whole := o.pass (.ok s)
    let part := o.pass (.ok (neededBy o s))
    n = s.length ∧ part.count = .ok (neededBy o s).length ∧ part.turtle = whole.turtle ∧ part.calls = whole.calls ∧
      o.left part = o.left whole ∧
      ∃ drawn, whole.emitted.toList = opened o s ++ drawn ∧ part.emitted.toList = opened o (neededBy o s) ++ drawn := by
  intro whole part
  by_cases empty : s = []
  · subst empty
    have none_ : neededBy o [] = [] := by
      rw [neededBy]
      cases o.run with
      | ok | error => rfl
    have same : part = whole := congrArg (fun kept => o.pass (.ok kept)) none_
    have drawn : whole.emitted.toList = [] := congrArg Array.toList (empty_emits o)
    obtain rfl : n = 0 := render_count completes
    rw [none_, same]
    exact ⟨rfl, completes, rfl, rfl, rfl, [], drawn, drawn⟩
  obtain ⟨first, begun⟩ := completes_begins empty completes
  obtain ⟨last, walked⟩ := completes_walks begun completes
  have wholeReaches := walk_reaches begun walked
  have neededEq : neededBy o s = needed o.hook first s := by rw [neededBy, begun]
  have walkedPart : first.walk o.hook (neededBy o s) = .ok last := by rw [neededEq, walk_needed, walked]
  have partReaches := walk_reaches begun walkedPart
  refine ⟨Except.ok.inj (completes.symm.trans wholeReaches.count), partReaches.count, partReaches.turtle.trans wholeReaches.turtle.symm,
    partReaches.calls.trans wholeReaches.calls.symm, partReaches.generator.trans wholeReaches.generator.symm, ?_⟩
  obtain ⟨drawn, emitted⟩ := walk_extends walked
  rw [(run_begins begun).emitted] at emitted
  exact ⟨drawn, walk_drawn begun walked emitted.symm, walk_drawn begun walkedPart emitted.symm⟩

/-- The first bracket comes back to the place that was on the stack, the last one to none. Between them stand a symbol
    that is no command and an asterisk. -/
theorem hookless_symbols_unseen :
    let o : Start Float := ⟨none, 0, .seed .null, Turtle.initial.withStack [⟨1.0, 2.0, 3.0, ⟨0, 0⟩⟩], .real 10.0, .real 90.0⟩
    let whole := o.pass (.ok [93, 88, 91, 42, 114, 93, 93, 70])
    let part := o.pass (.ok [93, 91, 114, 93, 70])
    neededBy o [93, 88, 91, 42, 114, 93, 93, 70] = [93, 91, 114, 93, 70] ∧ whole.count = .ok 8 ∧ part.count = .ok 5 ∧
      part.turtle = whole.turtle ∧ o.left part = o.left whole := by
  intro o whole part
  have needs : neededBy o [93, 88, 91, 42, 114, 93, 93, 70] = [93, 91, 114, 93, 70] := by decide +kernel
  have counted : whole.count = .ok 8 := toOption_ok.mp (by decide +kernel)
  have unseen := idle_symbols_unseen counted
  rw [needs] at unseen
  exact ⟨needs, counted, unseen.2.1, unseen.2.2.1, unseen.2.2.2.2.1⟩

end Lindenmayer.Skipping
