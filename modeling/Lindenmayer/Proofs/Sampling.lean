import Lindenmayer.Proofs.Shifting
import Lindenmayer.Proofs.Starting

/-!
What passes draw. Four symbols draw, and what each of them draws and leaves of the generator depends on the generator
alone (`read_draws`), so a pass leaves the generator that these symbols leave (`walk_draws`). Passes that share the
generator and these symbols draw the same values one by one, and without them no pass depends on its generator
(`samples_shared`).
-/
namespace Lindenmayer.Sampling
open Outcomes Sketching Passes Shifting Starting

/-- The symbols that draw: a turn angle, a hue, a saturation and an opacity. -/
def samplers : List Symbol := ['r', 'T', 'c', 'O'].map .ofChar

def samplersOf (s : Sequence) : Sequence := s.filter (samplers.contains ·)

/-- Whether a command draws. -/
def samples : Command → Bool
  | .randomTurn | .randomHue | .randomSaturation | .randomOpacity => true
  | _ => false

theorem samplers_command {s : Symbol} : s ∈ samplers ↔ ∃ command, Command.ofSymbol? s = some command ∧ samples command = true := by
  constructor
  · intro member
    simp only [samplers, List.map_cons, List.map_nil, List.mem_cons, List.not_mem_nil, or_false] at member
    rcases member with rfl | rfl | rfl | rfl
    · exact ⟨.randomTurn, rfl, rfl⟩
    · exact ⟨.randomHue, rfl, rfl⟩
    · exact ⟨.randomSaturation, rfl, rfl⟩
    · exact ⟨.randomOpacity, rfl, rfl⟩
  · rintro ⟨command, ordered, draws⟩
    cases command with
    | randomTurn =>
      rw [Command.ofSymbol?_letter (l := 'r') (fun c => by fun_cases Command.ofChar? c <;> simp) ordered]
      simp [samplers]
    | randomHue =>
      rw [Command.ofSymbol?_letter (l := 'T') (fun c => by fun_cases Command.ofChar? c <;> simp) ordered]
      simp [samplers]
    | randomSaturation =>
      rw [Command.ofSymbol?_letter (l := 'c') (fun c => by fun_cases Command.ofChar? c <;> simp) ordered]
      simp [samplers]
    | randomOpacity =>
      rw [Command.ofSymbol?_letter (l := 'O') (fun c => by fun_cases Command.ofChar? c <;> simp) ordered]
      simp [samplers]
    | _ => cases draws

variable {K : Type} [Scalar K]

/-! ### What is drawn -/

/-- What a command draws, and the generator behind it. -/
def draw? (g : Generator) : Command → Option (K × Generator)
  | .randomTurn => some (Run.drawAngle g)
  | .randomHue =>
    let (unit, after) := Run.drawUnit g
    some (Scalar.zero + Scalar.ofInt 360 * unit, after)
  | .randomSaturation | .randomOpacity => some (Run.drawUnit g)
  | _ => none

omit [Scalar K] in
/-- Where a command puts what it draws. -/
def drawn? (t : Turtle K) : Command → Option K
  | .randomTurn => some t.turnAngle
  | .randomHue => some t.hue
  | .randomSaturation => some t.saturation
  | .randomOpacity => some t.opacity
  | _ => none

/-- What a symbol draws, and the generator behind it. -/
def draw (g : Generator) (s : Symbol) : Option (K × Generator) := (Command.ofSymbol? s).bind (draw? g)

omit [Scalar K] in
/-- The value of a turtle that a symbol has drawn. -/
def drawnBy (s : Symbol) (t : Turtle K) : Option K := (Command.ofSymbol? s).bind (drawn? t)

variable (K) in
/-- The generator behind a symbol. -/
def behind (g : Generator) (s : Symbol) : Generator := ((draw g s : Option (K × Generator)).map Prod.snd).getD g

theorem draw_some {s : Symbol} (member : s ∈ samplers) (g : Generator) : ∃ value after, draw g s = some ((value : K), after) := by
  obtain ⟨command, ordered, draws⟩ := samplers_command.mp member
  rw [draw, ordered]
  cases command with
  | randomTurn | randomHue | randomSaturation | randomOpacity => exact ⟨_, _, rfl⟩
  | _ => cases draws

theorem draw_none {s : Symbol} (quiet : s ∉ samplers) (g : Generator) : (draw g s : Option (K × Generator)) = none := by
  rw [draw]
  cases ordered : Command.ofSymbol? s with
  | none => rfl
  | some command =>
    cases command with
    | randomTurn | randomHue | randomSaturation | randomOpacity => exact absurd (samplers_command.mpr ⟨_, ordered, rfl⟩) quiet
    | _ => rfl

theorem move_generator {r next : Run K} {distance : K} (moved : r.move distance = .ok next) : next.generator = r.generator := by
  obtain ⟨t, _, rfl⟩ := move_ok moved
  rfl

theorem obey_draws {hook : Option (Hook K)} {r next : Run K} {command : Command} (obeyed : r.obey hook command = .ok next) :
    drawn? next.turtle command = (draw? r.generator command).map Prod.fst ∧
      next.generator = ((draw? r.generator command : Option (K × Generator)).map Prod.snd).getD r.generator := by
  cases command with
  | forward | halfForward => exact ⟨rfl, move_generator obeyed⟩
  | halfBackward => exact ⟨rfl, move_generator (r := r.turn (Scalar.ofInt 180)) obeyed⟩
  | backward =>
    obtain ⟨middle, moved, rfl⟩ := backward_ok obeyed
    have kept := move_generator moved
    exact ⟨rfl, kept⟩
  | pop =>
    obtain ⟨-, rfl⟩ | ⟨t, -, rfl⟩ := pop_ok obeyed
    · exact ⟨rfl, rfl⟩
    · exact ⟨rfl, rfl⟩
  | asterisk =>
    cases hook with
    | none =>
      cases obeyed
      exact ⟨rfl, rfl⟩
    | some hook =>
      obtain ⟨t, _, rfl⟩ := callHook_ok obeyed
      exact ⟨rfl, rfl⟩
  | _ =>
    cases obeyed
    exact ⟨rfl, rfl⟩

theorem read_draws {hook : Option (Hook K)} {r next : Run K} {s : Symbol} (read : r.read hook s = .ok next) :
    drawnBy s next.turtle = (draw r.generator s).map Prod.fst ∧ next.generator = behind K r.generator s := by
  rw [drawnBy, behind, draw]
  rcases read_ok read with ⟨unknown, rfl⟩ | ⟨command, ordered, obeyed⟩
  · rw [unknown]
    exact ⟨rfl, rfl⟩
  · rw [ordered]
    exact obey_draws obeyed

theorem walk_draws {hook : Option (Hook K)} {r last : Run K} {s : Sequence} (walked : r.walk hook s = .ok last) :
    last.generator = (samplersOf s).foldl (behind K) r.generator := by
  induction s generalizing r with
  | nil =>
    cases walked
    rfl
  | cons s rest ih =>
    obtain ⟨next, read, walked⟩ := walk_cons walked
    rw [ih walked, (read_draws read).2]
    by_cases member : s ∈ samplers
    · rw [samplersOf, samplersOf, List.filter_cons_of_pos (by simpa using member), List.foldl_cons]
    · rw [samplersOf, samplersOf, List.filter_cons_of_neg (by simpa using member), behind, draw_none member]
      rfl

/-! ### Without what draws -/

omit [Scalar K] in
/-- A run with another generator. -/
def reseeded (g : Generator) (r : Run K) : Run K := { r with generator := g }

theorem move_reseeded (g : Generator) (r : Run K) (distance : K) :
    (reseeded g r).move distance = both (reseeded g) (r.move distance) := by
  have turtle : (reseeded g r).turtle = r.turtle := rfl
  rw [Run.move, Run.move, turtle]
  cases r.turtle.advance distance with
  | error | ok => rfl

theorem callHook_reseeded (g : Generator) (hook : Hook K) (r : Run K) :
    (reseeded g r).callHook hook = both (reseeded g) (r.callHook hook) := by
  have turtle : (reseeded g r).turtle = r.turtle := rfl
  have calls : (reseeded g r).calls = r.calls := rfl
  rw [Run.callHook, Run.callHook, turtle, calls]
  cases Action.run r.turtle (hook r.calls r.turtle) with
  | error failed => rfl
  | ok t =>
    dsimp only
    rw [emitChanges_emitted, emitChanges_emitted]
    rfl

theorem obey_reseeded (g : Generator) (hook : Option (Hook K)) (r : Run K) {command : Command} (quiet : samples command = false) :
    (reseeded g r).obey hook command = both (reseeded g) (r.obey hook command) := by
  cases command with
  | forward | halfForward => exact move_reseeded g r _
  | halfBackward => exact move_reseeded g (r.turn (Scalar.ofInt 180)) _
  | backward =>
    have moved := move_reseeded g (r.turn (Scalar.ofInt 180)) r.turtle.step
    have turned : (reseeded g r).turn (Scalar.ofInt 180) = reseeded g (r.turn (Scalar.ofInt 180)) := rfl
    have step : (reseeded g r).turtle.step = r.turtle.step := rfl
    rw [Run.obey, Run.obey, turned, step, moved]
    cases (r.turn (Scalar.ofInt 180)).move r.turtle.step with
    | error | ok => rfl
  | randomTurn | randomHue | randomSaturation | randomOpacity => cases quiet
  | pop =>
    have turtle : (reseeded g r).turtle = r.turtle := rfl
    rw [Run.obey, Run.obey, turtle]
    cases r.turtle.pop? with
    | none | some => rfl
  | asterisk =>
    cases hook with
    | none => rfl
    | some hook => exact callHook_reseeded g hook r
  | _ => rfl

theorem walk_reseeded (g : Generator) (hook : Option (Hook K)) (r : Run K) {s : Sequence} (quiet : samplersOf s = []) :
    (reseeded g r).walk hook s = both (reseeded g) (r.walk hook s) := by
  induction s generalizing r with
  | nil => rfl
  | cons s rest ih =>
    obtain ⟨quiet, quietRest⟩ := List.forall_mem_cons.mp (List.filter_eq_nil_iff.mp quiet)
    have read : (reseeded g r).read hook s = both (reseeded g) (r.read hook s) := by
      rw [Run.read, Run.read]
      cases ordered : Command.ofSymbol? s with
      | none => rfl
      | some command =>
        refine obey_reseeded g hook r (Bool.eq_false_iff.mpr fun draws => quiet ?_)
        simpa using samplers_command.mpr ⟨command, ordered, draws⟩
    rw [Run.walk, Run.walk, read]
    cases r.read hook s with
    | error failed => rfl
    | ok next => exact ih next (List.filter_eq_nil_iff.mpr quietRest)

theorem pass_reseeded (o : Start K) {s : Sequence} (quiet : samplersOf s = []) {g h : Generator} {other : Randomness}
    (started : o.randomness.start = .ok g) (startedOther : other.start = .ok h) :
    { o with randomness := other }.pass (.ok s) = { o.pass (.ok s) with generator := (o.pass (.ok s)).generator.map fun _ => h } := by
  rw [Start.pass, Start.pass, render, render]
  cases renderChecks o.turtle o.step with
  | error failure => rfl
  | ok =>
    rw [ok_bind]
    dsimp only
    cases setStride o.turtle o.step o.turnAngle with
    | error failed => rfl
    | ok t =>
      dsimp only
      rw [renderSequence, renderSequence]
      by_cases empty : s.isEmpty = true
      · rw [if_pos empty, if_pos empty]
        rfl
      rw [if_neg empty, if_neg empty, started, startedOther]
      dsimp only
      have opened : Run.setUp ⟨t, h, o.calls, #[]⟩ = reseeded h (Run.setUp ⟨t, g, o.calls, #[]⟩) := by
        rw [setUp_opening, setUp_opening]
        rfl
      rw [opened, walk_reseeded h o.hook _ quiet]
      cases (Run.setUp ⟨t, g, o.calls, #[]⟩).walk o.hook s with
      | ok | error => rfl

/-! ### Passes that share what they draw from -/

/-- A pass that has read so much and then a symbol has drawn a value with it. -/
def Draws (o : Start K) (before : Sequence) (s : Symbol) (value : K) : Prop :=
  (o.pass (.ok (before ++ [s]))).count = .ok (before ++ [s]).length ∧ drawnBy s (o.pass (.ok (before ++ [s]))).turtle = some value

theorem samplersOf_at (before after : Sequence) {s : Symbol} (member : s ∈ samplers) :
    samplersOf (before ++ s :: after) = samplersOf before ++ s :: samplersOf after := by
  rw [samplersOf, List.filter_append, List.filter_cons_of_pos (by simpa using member)]
  rfl

theorem pass_draws {o : Start K} {first last : Run K} {before after : Sequence} {s : Symbol} (begun : o.run = .ok first)
    (walked : first.walk o.hook (before ++ s :: after) = .ok last) (member : s ∈ samplers) :
    ∃ value next, draw ((samplersOf before).foldl (behind K) first.generator) s = some (value, next) ∧ Draws o before s value := by
  obtain ⟨middle, arrived, walked⟩ := walk_append walked
  obtain ⟨next, read, -⟩ := walk_cons walked
  have reads : first.walk o.hook (before ++ [s]) = .ok next := by
    rw [walk_joined, arrived]
    simp only [Except.bind, Run.walk, read]
  have reaches := walk_reaches begun reads
  obtain ⟨value, after, drew⟩ := draw_some (K := K) member middle.generator
  refine ⟨value, after, walk_draws arrived ▸ drew, reaches.count, ?_⟩
  rw [reaches.turtle, (read_draws read).1, drew]
  rfl

/-- Passes that complete and share the generator and the symbols that draw, draw the same values one by one and leave
    the same generator. Without these symbols a pass does the same for every generator, whether it completes or not,
    and leaves it alone. -/
theorem samples_shared :
    (∀ (one two : Start K) (g : Generator) (s t : Sequence) (m n : Nat),
      one.randomness.start = .ok g → two.randomness.start = .ok g → samplersOf s = samplersOf t →
      (one.pass (.ok s)).count = .ok m → (two.pass (.ok t)).count = .ok n →
      one.left (one.pass (.ok s)) = two.left (two.pass (.ok t)) ∧
        ∀ x y before after before' after', x ∈ samplers → y ∈ samplers → s = before ++ x :: after → t = before' ++ y :: after' →
          (samplersOf before).length = (samplersOf before').length →
          x = y ∧ ∃ value, Draws one before x value ∧ Draws two before' y value) ∧
    (∀ (o : Start K) (s : Sequence) (g h : Generator) (other : Randomness),
      o.randomness.start = .ok g → other.start = .ok h → samplersOf s = [] →
      { o with randomness := other }.pass (.ok s) = { o.pass (.ok s) with generator := (o.pass (.ok s)).generator.map fun _ => h }) := by
  constructor
  · intro one two g s t m n started startedToo same completes completesToo
    obtain ⟨first, begun, firstOwns⟩ := started_begins started completes
    obtain ⟨firstToo, begunToo, firstTooOwns⟩ := started_begins startedToo completesToo
    obtain ⟨last, walked⟩ := completes_walks begun completes
    obtain ⟨lastToo, walkedToo⟩ := completes_walks begunToo completesToo
    have shared : first.generator = firstToo.generator := firstOwns.trans firstTooOwns.symm
    constructor
    · rw [(walk_reaches begun walked).generator, (walk_reaches begunToo walkedToo).generator, walk_draws walked, walk_draws walkedToo, same,
        shared]
    · rintro x y before after before' after' xDraws yDraws rfl rfl lengths
      rw [samplersOf_at before after xDraws, samplersOf_at before' after' yDraws] at same
      obtain ⟨sameBefore, sameOnward⟩ := List.append_inj same lengths
      obtain rfl : x = y := List.head_eq_of_cons_eq sameOnward
      obtain ⟨value, next, drew, draws⟩ := pass_draws begun walked xDraws
      obtain ⟨valueToo, nextToo, drewToo, drawsToo⟩ := pass_draws begunToo walkedToo xDraws
      rw [sameBefore, shared, drewToo] at drew
      cases drew
      exact ⟨rfl, _, draws, drawsToo⟩
  · intro o s g h other started startedOther quiet
    exact pass_reseeded o quiet started startedOther

/-- Two turn angles are drawn with all the others between them, so the second one takes the half that the first one
    kept. The second pass has a hook and another turtle. -/
theorem shared_turn_drawn :
    let g : Generator := ⟨1, 3, none⟩
    let one : Start Float := ⟨none, 0, .generator g, Turtle.initial, .real 10.0, .real 90.0⟩
    let two : Start Float := ⟨some fun _ _ => [.setPen false], 4, .generator g, { Turtle.initial with hue := 0.0 }, .real 1.0, .int 30⟩
    let seeded : Start Float := { one with randomness := .seed .null }
    (one.pass (.ok [114, 70, 84, 91, 99, 93, 79, 114])).count = .ok 8 ∧
      (two.pass (.ok [43, 114, 84, 88, 99, 42, 79, 111, 114])).count = .ok 9 ∧
      one.left (one.pass (.ok [114, 70, 84, 91, 99, 93, 79, 114])) = two.left (two.pass (.ok [43, 114, 84, 88, 99, 42, 79, 111, 114])) ∧
      (∃ value, Draws one [114, 70, 84, 91, 99, 93, 79] 114 value ∧ Draws two [43, 114, 84, 88, 99, 42, 79, 111] 114 value) ∧
      one.pass (.ok [70, 43, 70]) =
        { seeded.pass (.ok [70, 43, 70]) with generator := (seeded.pass (.ok [70, 43, 70])).generator.map fun _ => g } := by
  intro g one two seeded
  have counted : (one.pass (.ok [114, 70, 84, 91, 99, 93, 79, 114])).count = .ok 8 := toOption_ok.mp (by decide +kernel)
  have countedToo : (two.pass (.ok [43, 114, 84, 88, 99, 42, 79, 111, 114])).count = .ok 9 := toOption_ok.mp (by decide +kernel)
  obtain ⟨lefts, values⟩ := samples_shared.1 one two g _ _ _ _ rfl rfl (by decide) counted countedToo
  have second := values 114 114 [114, 70, 84, 91, 99, 93, 79] [] [43, 114, 84, 88, 99, 42, 79, 111] []
    (by decide) (by decide) rfl rfl (by decide)
  exact ⟨counted, countedToo, lefts, second.2, samples_shared.2 seeded _ (Seed.generator []) g (.generator g) rfl rfl (by decide)⟩

end Lindenmayer.Sampling
