import Mathlib.Data.List.Induction
import Lindenmayer.Proofs.Signs
import Lindenmayer.Proofs.Starting

/-!
Lengths along a pass. Without a hook only what lengthens the step and what shortens it change it, so after any symbols
it is the fold of `stride` over them, and whatever sets the width of the pen sets one above zero (`read_leaves`). A step
above zero stays so, and its moves, circles and squares have lengths above zero, just if it is `enough` for each symbol
that is read (`strides_above`). It need not be: nothing keeps it from being shortened to zero (`shrunk_to_nothing`).
-/
namespace Lindenmayer.Strides
open Outcomes Passes Starting Signs

/-- The step behind a symbol. -/
def stride (step : Float) (s : Symbol) : Float :=
  match Command.ofSymbol? s with
  | some (.growStep length) => step + Scalar.ofInt length
  | some (.shrinkStep length) => step - Scalar.ofInt length
  | _ => step

/-- The length that a symbol moves by or draws with. -/
def length? (step : Float) (s : Symbol) : Option Float :=
  match Command.ofSymbol? s with
  | some .forward | some .backward => some step
  | some .halfForward | some .halfBackward => some (Scalar.half step)
  | some .circle | some .square => some (step / Scalar.ofInt 4)
  | _ => none

/-- Whether a step is enough for a symbol: it is more than is taken from it, more than the least double if it is halved,
    and more than twice the least if it is quartered. -/
def enough (step : Float) (s : Symbol) : Bool :=
  match Command.ofSymbol? s with
  | some (.shrinkStep length) => Scalar.lt (Scalar.ofInt length) step
  | some .halfForward | some .halfBackward => Scalar.lt (Float.ofBits 1) step
  | some .circle | some .square => Scalar.lt (Float.ofBits 2) step
  | _ => true

/-! ### Steps behind one symbol -/

/-- The step is changed by one, and the width is one to nine or a half. -/
theorem ofSymbol?_numbers {s : Symbol} {command : Command} (ordered : Command.ofSymbol? s = some command) :
    (∀ n, command = .growStep n ∨ command = .shrinkStep n → n = 1) ∧
      ∀ n, command = .penWidth n → n ∈ [1, 2, 4, 6, 8, 10, 12, 14, 16, 18] := by
  rw [Command.ofSymbol?] at ordered
  split at ordered
  next =>
    revert ordered
    generalize Char.ofNat s.toNat = c
    unfold Command.ofChar?
    split <;> rintro ⟨⟩ <;> simp
  next => cases ordered

theorem one_above : Above (Scalar.ofInt 1) := by
  rw [Above]
  decide +kernel

theorem widths_above : ∀ n ∈ [1, 2, 4, 6, 8, 10, 12, 14, 16, 18], Above (Scalar.halves n) := by
  simp only [Above]
  decide +kernel

/-- A step above zero is enough just if what is left of it and what is made of it are above zero. -/
theorem enough_above {step : Float} (above : Above step) (s : Symbol) :
    enough step s = true ↔ Above (stride step s) ∧ ∀ ℓ, length? step s = some ℓ → Above ℓ := by
  rw [enough, stride, length?]
  cases ordered : Command.ofSymbol? s with
  | none => simp [above]
  | some command =>
    cases command with
    | growStep n =>
      obtain rfl : n = 1 := (ofSymbol?_numbers ordered).1 n (.inl rfl)
      simp [add_above above one_above]
    | shrinkStep n =>
      obtain rfl : n = 1 := (ofSymbol?_numbers ordered).1 n (.inr rfl)
      simp [sub_above above one_above]
    | halfForward | halfBackward => simp [above, half_above above]
    | circle | square => simp [above, quarter_above above]
    | _ => simp [above]

/-! ### What a symbol leaves -/

variable {K : Type} [Scalar K]

structure Keeps (t after : Turtle K) : Prop where
  step : after.step = t.step
  penWidth : after.penWidth = t.penWidth

theorem Keeps.above {t after : Turtle Float} (keeps : Keeps t after) :
    after.step = t.step ∧ (Above t.penWidth → Above after.penWidth) := by
  rw [keeps.penWidth]
  exact ⟨keeps.step, id⟩

theorem advance_keeps (t : Turtle K) (distance : K) : Keeps t (leaves (t.advance distance)) := by
  rw [Turtle.advance]
  cases Scalar.cosDegrees t.heading with
  | error failure => exact ⟨rfl, rfl⟩
  | ok cosine =>
    dsimp only
    cases Scalar.sinDegrees t.heading with
    | error | ok => exact ⟨rfl, rfl⟩

theorem move_keeps (r : Run K) (distance : K) : Keeps r.turtle (leaves (r.move distance)).turtle := by
  have keeps := advance_keeps r.turtle distance
  rw [Run.move]
  cases advanced : r.turtle.advance distance with
  | ok | error =>
    rw [advanced] at keeps
    exact keeps

def steady : Command → Bool
  | .growStep _ | .shrinkStep _ | .penWidth _ => false
  | _ => true

theorem obey_keeps {r : Run K} {command : Command} (still : steady command = true) :
    Keeps r.turtle (leaves (r.obey none command)).turtle := by
  cases command with
  | forward | halfForward => exact move_keeps r _
  | halfBackward =>
    have kept := move_keeps (r.turn (Scalar.ofInt 180)) (Scalar.half r.turtle.step)
    exact ⟨kept.step, kept.penWidth⟩
  | backward =>
    have kept := move_keeps (r.turn (Scalar.ofInt 180)) r.turtle.step
    rw [Run.obey]
    cases moved : (r.turn (Scalar.ofInt 180)).move r.turtle.step with
    | ok | error =>
      rw [moved] at kept
      exact ⟨kept.step, kept.penWidth⟩
  | pop =>
    rw [Run.obey, Turtle.pop?]
    cases r.turtle.stack with
    | nil | cons => exact ⟨rfl, rfl⟩
  | growStep | shrinkStep | penWidth => cases still
  | _ => exact ⟨rfl, rfl⟩

/-- What a symbol leaves of the step and of the width. -/
theorem read_leaves (r : Run Float) (s : Symbol) :
    (leaves (r.read none s)).turtle.step = stride r.turtle.step s ∧
      (Above r.turtle.penWidth → Above (leaves (r.read none s)).turtle.penWidth) := by
  rw [Run.read, stride]
  cases ordered : Command.ofSymbol? s with
  | none => exact ⟨rfl, id⟩
  | some command =>
    cases command with
    | growStep | shrinkStep => exact ⟨rfl, id⟩
    | penWidth n => exact ⟨rfl, fun _ => widths_above n ((ofSymbol?_numbers ordered).2 n rfl)⟩
    | _ => exact Keeps.above (obey_keeps rfl)

/-! ### What is done with a length -/

/-- A length is moved by, ahead or back, or something of that size is drawn here. -/
inductive Uses (r : Run K) (ℓ : K) : Outcome K → Prop where
  | ahead : Uses r ℓ (r.move ℓ)
  | back : Uses r ℓ (((r.turn (Scalar.ofInt 180)).move ℓ).map (·.turn (Scalar.ofInt (-180))))
  | round : Uses r ℓ ((r.turn (Scalar.ofInt 180)).move ℓ)
  | circle : Uses r ℓ (.ok (r.emit (.circle r.turtle.x r.turtle.y ℓ)))
  | square : Uses r ℓ (.ok (r.emit (.rectangle r.turtle.x r.turtle.y ℓ ℓ)))

theorem read_uses {r : Run Float} {s : Symbol} {ℓ : Float} (long : length? r.turtle.step s = some ℓ) : Uses r ℓ (r.read none s) := by
  rw [Run.read]
  rw [length?] at long
  cases ordered : Command.ofSymbol? s with
  | none =>
    rw [ordered] at long
    cases long
  | some command =>
    rw [ordered] at long
    cases command with
    | forward | halfForward | backward | halfBackward | circle | square =>
      cases long
      constructor
    | _ => cases long

/-- The lengths of something that is drawn. -/
def sizes : Primitive K → List K
  | .circle _ _ radius => [radius]
  | .rectangle _ _ width height => [width, height]
  | _ => []

omit [Scalar K] in
theorem opening_sizes {t : Turtle K} : ∀ p ∈ opening t, sizes p = [] := by
  intro p member
  rw [opening] at member
  split at member <;> simp only [List.mem_append, List.mem_cons, List.not_mem_nil, or_false] at member
  · rcases member with rfl | rfl | rfl <;> rfl
  · rcases member with (rfl | rfl | rfl) | rfl <;> rfl

/-- What is emitted is as before but for primitives of a length. -/
def Measured (r next : Run K) (length : Option K) : Prop :=
  ∀ p ∈ next.emitted, p ∈ r.emitted ∨ ∀ ℓ ∈ sizes p, length = some ℓ

omit [Scalar K] in
theorem measured_same {r next : Run K} {length : Option K} (same : next.emitted = r.emitted) : Measured r next length :=
  fun _ member => .inl (same ▸ member)

omit [Scalar K] in
theorem measured_one {r next : Run K} {p : Primitive K} {length : Option K} (told : next.emitted = r.emitted.push p)
    (sized : ∀ ℓ ∈ sizes p, length = some ℓ) : Measured r next length := by
  intro q member
  rw [told] at member
  rcases Array.mem_push.mp member with before | rfl
  · exact .inl before
  · exact .inr sized

theorem move_measured (r : Run K) (distance : K) (length : Option K) : Measured r (leaves (r.move distance)) length := by
  rw [Run.move]
  cases r.turtle.advance distance with
  | error failed => exact measured_same rfl
  | ok t =>
    refine measured_one rfl ?_
    split <;> simp [sizes]

theorem read_measured (r : Run Float) (s : Symbol) : Measured r (leaves (r.read none s)) (length? r.turtle.step s) := by
  rw [Run.read, length?]
  cases ordered : Command.ofSymbol? s with
  | none => exact measured_same rfl
  | some command =>
    cases command with
    | forward | halfForward => exact move_measured r _ _
    | halfBackward => exact move_measured (r.turn (Scalar.ofInt 180)) _ _
    | backward =>
      have told := move_measured (r.turn (Scalar.ofInt 180)) r.turtle.step (some r.turtle.step)
      dsimp only [Run.obey]
      cases moved : (r.turn (Scalar.ofInt 180)).move r.turtle.step with
      | ok | error =>
        rw [moved] at told
        exact told
    | circle | square | penUp | penDown | penWidth | randomHue | hueShift | randomSaturation | randomOpacity =>
      exact measured_one rfl (by simp [sizes])
    | pop =>
      dsimp only [Run.obey]
      cases r.turtle.pop? with
      | none => exact measured_same rfl
      | some t => exact measured_one rfl (by simp [sizes])
    | _ => exact measured_same rfl

/-! ### Passes -/

theorem renderChecks_positive {turtle : Turtle K} {step : Number K} (checked : renderChecks turtle step = .ok ()) :
    step.isPositive = true ∧ Scalar.lt Scalar.zero turtle.penWidth = true := by
  rw [renderChecks] at checked
  split at checked
  next => cases checked
  next positive =>
    split at checked
    next => cases checked
    next above => exact ⟨by simpa using positive, by simpa using above⟩

/-- The checks see to it that a pass begins with a step and a width above zero. -/
theorem run_above {o : Start Float} {first : Run Float} (begun : o.run = .ok first) :
    Above first.turtle.step ∧ Above first.turtle.penWidth := by
  have begins := run_begins begun
  obtain ⟨positive, wide⟩ := renderChecks_positive begins.checked
  refine ⟨toScalar_above positive begins.step, ?_⟩
  rw [begins.turtle]
  exact wide

/-- A symbol of a sequence is read behind what is before it, if the pass has not failed. -/
structure Reads (o : Start K) (sequence before : Sequence) (s : Symbol) : Prop where
  stands : before ++ [s] <+: sequence
  arrives : (o.pass (.ok before)).count = .ok before.length

/-- What the step, the width and the lengths are along a pass over a sequence, from its first step on. -/
structure Course (o : Start Float) (sequence : Sequence) (step : Float) : Prop where
  given : o.step.toScalar = .ok step
  /-- If nothing has failed, the step is what the symbols have made of the first. -/
  step : ∀ before, before <+: sequence → (o.pass (.ok before)).count = .ok before.length →
    (o.pass (.ok before)).turtle.step = before.foldl stride step
  penWidth : ∀ before, before <+: sequence → Above (o.pass (.ok before)).turtle.penWidth
  /-- A symbol that is read with a length uses it. -/
  uses : ∀ before s ℓ, Reads o sequence before s → length? (o.pass (.ok before)).turtle.step s = some ℓ →
    ∃ r outcome, Reaches o before r ∧ Uses r ℓ outcome ∧ o.pass (.ok (before ++ [s])) = passOf (before ++ [s]).length outcome
  /-- What is drawn has the sizes that symbols have used. -/
  drawn : ∀ p ∈ (o.pass (.ok sequence)).emitted, ∀ ℓ ∈ sizes p,
    ∃ before s, Reads o sequence before s ∧ length? (o.pass (.ok before)).turtle.step s = some ℓ
  /-- All steps and all lengths are above zero just if every symbol is read at a step that is enough for it. -/
  above : (∀ before s, Reads o sequence before s → enough (o.pass (.ok before)).turtle.step s = true) ↔
    (∀ before, before <+: sequence → Above (o.pass (.ok before)).turtle.step) ∧
      ∀ before s ℓ, Reads o sequence before s → length? (o.pass (.ok before)).turtle.step s = some ℓ → Above ℓ

section Hookless

variable {o : Start Float} {first : Run Float} {sequence before : Sequence} {s : Symbol} (hookless : o.hook = none)
  (begun : o.run = .ok first)
include hookless begun

theorem pass_penWidth (before : Sequence) : Above (o.pass (.ok before)).turtle.penWidth := by
  induction before using List.reverseRecOn with
  | nil =>
    rw [pass_empty begun]
    exact (run_above begun).2
  | append_singleton before s ih =>
    obtain ⟨r, walked, onward⟩ | ⟨-, same⟩ := pass_snoc begun before s
    · rw [(walk_reaches begun walked).turtle] at ih
      rw [onward, passOf_turtle, hookless]
      exact (read_leaves r s).2 ih
    · rw [same]
      exact ih

theorem reads_stride (reads : Reads o sequence before s) :
    (o.pass (.ok (before ++ [s]))).turtle.step = stride (o.pass (.ok before)).turtle.step s := by
  obtain ⟨r, walked, onward⟩ | ⟨failed, -⟩ := pass_snoc begun before s
  · rw [onward, passOf_turtle, hookless, (read_leaves r s).1, (walk_reaches begun walked).turtle]
  · exact absurd reads.arrives (failed _)

theorem reads_uses {ℓ : Float} (reads : Reads o sequence before s)
    (long : length? (o.pass (.ok before)).turtle.step s = some ℓ) :
    ∃ r outcome, Reaches o before r ∧ Uses r ℓ outcome ∧
      o.pass (.ok (before ++ [s])) = passOf (before ++ [s]).length outcome := by
  obtain ⟨r, walked, onward⟩ | ⟨failed, -⟩ := pass_snoc begun before s
  · have reaches := walk_reaches begun walked
    rw [reaches.turtle] at long
    rw [hookless] at onward
    exact ⟨r, _, reaches, read_uses long, onward⟩
  · exact absurd reads.arrives (failed _)

omit hookless in
/-- A pass that completes has read its last symbol. -/
theorem reads_last (arrives : (o.pass (.ok (before ++ [s]))).count = .ok (before ++ [s]).length) :
    Reads o (before ++ [s]) before s := by
  obtain ⟨r, walked, -⟩ | ⟨failed, same⟩ := pass_snoc begun before s
  · exact ⟨List.prefix_rfl, (walk_reaches begun walked).count⟩
  · rw [same] at arrives
    exact absurd arrives (failed _)

theorem pass_stride (before : Sequence) (arrives : (o.pass (.ok before)).count = .ok before.length) :
    (o.pass (.ok before)).turtle.step = before.foldl stride first.turtle.step := by
  induction before using List.reverseRecOn with
  | nil =>
    rw [pass_empty begun]
    rfl
  | append_singleton before s ih =>
    have reads := reads_last begun arrives
    rw [reads_stride hookless begun reads, ih reads.arrives, List.foldl_append]
    rfl

theorem pass_drawn (sequence : Sequence) : ∀ p ∈ (o.pass (.ok sequence)).emitted, ∀ ℓ ∈ sizes p,
    ∃ before s, Reads o sequence before s ∧ length? (o.pass (.ok before)).turtle.step s = some ℓ := by
  induction sequence using List.reverseRecOn with
  | nil =>
    rw [empty_emits]
    simp
  | append_singleton sequence s ih =>
    have earlier : ∀ p ∈ (o.pass (.ok sequence)).emitted, ∀ ℓ ∈ sizes p,
        ∃ before x, Reads o (sequence ++ [s]) before x ∧ length? (o.pass (.ok before)).turtle.step x = some ℓ := by
      intro p member ℓ sized
      obtain ⟨before, x, reads, long⟩ := ih p member ℓ sized
      exact ⟨before, x, ⟨reads.stands.trans (List.prefix_append _ _), reads.arrives⟩, long⟩
    obtain ⟨r, walked, onward⟩ | ⟨-, same⟩ := pass_snoc begun sequence s
    · intro p member ℓ sized
      have reaches := walk_reaches begun walked
      rw [onward, passOf_emitted, hookless] at member
      rcases read_measured r s p member with before | now
      · by_cases empty : sequence = []
        · -- only the opening is before the first symbol
          subst empty
          cases walked
          have opens : p ∈ opening o.turtle := (run_begins begun).emitted ▸ before.val
          rw [opening_sizes p opens] at sized
          cases sized
        · exact earlier p (reaches.emitted empty ▸ before) ℓ sized
      · exact ⟨sequence, s, ⟨List.prefix_rfl, reaches.count⟩, reaches.turtle ▸ now ℓ sized⟩
    · rw [same]
      exact earlier

theorem pass_above (sequence : Sequence) :
    (∀ before s, Reads o sequence before s → enough (o.pass (.ok before)).turtle.step s = true) ↔
      (∀ before, before <+: sequence → Above (o.pass (.ok before)).turtle.step) ∧
        ∀ before s ℓ, Reads o sequence before s → length? (o.pass (.ok before)).turtle.step s = some ℓ → Above ℓ := by
  constructor
  · intro suffices_
    have steps : ∀ before, before <+: sequence → Above (o.pass (.ok before)).turtle.step := by
      intro before
      induction before using List.reverseRecOn with
      | nil =>
        intro _
        rw [pass_empty begun]
        exact (run_above begun).1
      | append_singleton before s ih =>
        intro stands
        have above := ih ((List.prefix_append _ _).trans stands)
        obtain ⟨r, walked, -⟩ | ⟨-, same⟩ := pass_snoc begun before s
        · have reads : Reads o sequence before s := ⟨stands, (walk_reaches begun walked).count⟩
          rw [reads_stride hookless begun reads]
          exact ((enough_above above s).mp (suffices_ before s reads)).1
        · rw [same]
          exact above
    refine ⟨steps, fun before s ℓ reads long => ?_⟩
    have above := steps before ((List.prefix_append _ _).trans reads.stands)
    exact ((enough_above above s).mp (suffices_ before s reads)).2 ℓ long
  · rintro ⟨steps, lengths⟩ before s reads
    have above := steps before ((List.prefix_append _ _).trans reads.stands)
    refine (enough_above above s).mpr ⟨?_, fun ℓ long => lengths before s ℓ reads long⟩
    rw [← reads_stride hookless begun reads]
    exact steps _ reads.stands

end Hookless

/-- Without a hook the width is above zero all along a pass that begins, and the steps and the lengths are just if every
    symbol is read at a step that is enough for it. -/
theorem strides_above {o : Start Float} {first : Run Float} (hookless : o.hook = none) (begun : o.run = .ok first)
    (sequence : Sequence) : Course o sequence first.turtle.step where
  given := (run_begins begun).step
  step before _ arrives := pass_stride hookless begun before arrives
  penWidth before _ := pass_penWidth hookless begun before
  uses _ _ _ reads long := reads_uses hookless begun reads long
  drawn := pass_drawn hookless begun sequence
  above := pass_above hookless begun sequence

theorem half_step_above :
    let o : Start Float := ⟨none, 0, .seed .null, Turtle.initial, .real 1.5, .real 90.0⟩
    ∃ first, o.hook = none ∧ o.run = .ok first ∧ Course o [115, 111] first.turtle.step := by
  intro o
  obtain ⟨first, begun, -⟩ := begins_run (o := o) (toOption_ok.mp (by decide +kernel)) rfl rfl rfl
  exact ⟨first, rfl, begun, strides_above rfl begun [115, 111]⟩

/-- A step of one is shortened to zero, and what is drawn then has no size. -/
theorem shrunk_to_nothing :
    let o : Start Float := ⟨none, 0, .seed .null, Turtle.initial, .real 1.0, .real 90.0⟩
    o.hook = none ∧ renderChecks o.turtle o.step = .ok () ∧ (o.pass (.ok [115])).count = .ok 1 ∧
      ¬ Above (o.pass (.ok [115])).turtle.step ∧ (o.pass (.ok [115, 111])).count = .ok 2 ∧
      ∃ p ∈ (o.pass (.ok [115, 111])).emitted, ∃ ℓ ∈ sizes p, ¬ Above ℓ := by
  intro o
  refine ⟨rfl, toOption_ok.mp (by decide +kernel), toOption_ok.mp (by decide +kernel), ?_, toOption_ok.mp (by decide +kernel), ?_⟩
  · rw [Above]
    decide +kernel
  · have vanished : ((o.pass (.ok [115, 111])).emitted.any fun p => (sizes p).any (!Scalar.lt Scalar.zero ·)) = true := by
      decide +kernel
    simpa only [Above, Array.any_eq_true', List.any_eq_true, Bool.not_eq_true', ← Bool.not_eq_true] using vanished

end Lindenmayer.Strides
