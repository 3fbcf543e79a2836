import Lindenmayer.Proofs.Outcomes
import Lindenmayer.Drawing.Recording

/-!
Replaying primitives. `replay` keeps what a recorder knows at the end beside the steps that it found, and
the steps that are resolved are those (`steps_replay`). Primitives that follow one another are replayed one
after the other (`replay_joined`), and the only thing that can fail is the colour of a pen (`replay_ok`).
-/
namespace Lindenmayer.Replaying
open Outcomes

variable {K : Type} [Scalar K]

/-- What a recorder knows after primitives, and the steps that they draw. -/
def replay (r : Recorder K) : List (Primitive K) → Except Failure (Recorder K × List (Step K))
  | [] => .ok (r, [])
  | p :: rest => do
    let next ← r.follow p
    let (last, steps) ← replay next rest
    return (last, (r.step? p).toList ++ steps)

/-- Every colour that is set has a text. -/
def Coloured (primitives : List (Primitive K)) : Prop :=
  ∀ hue saturation brightness opacity, .setPenColour hue saturation brightness opacity ∈ primitives →
    ∃ text, Pen.colourText hue saturation brightness = .ok text

theorem replay_cons {r last : Recorder K} {p : Primitive K} {rest : List (Primitive K)} {steps : List (Step K)} :
    replay r (p :: rest) = .ok (last, steps) ↔ ∃ next later, r.follow p = .ok next ∧ replay next rest = .ok (last, later) ∧
      steps = (r.step? p).toList ++ later := by
  constructor
  · intro replayed
    obtain ⟨next, followed, replayed⟩ := bind_ok.mp replayed
    obtain ⟨⟨end_, later⟩, after, replayed⟩ := bind_ok.mp replayed
    cases replayed
    exact ⟨next, later, followed, after, rfl⟩
  · rintro ⟨next, later, followed, after, rfl⟩
    exact bind_ok.mpr ⟨next, followed, bind_ok.mpr ⟨_, after, rfl⟩⟩

private theorem resolve_replay (r : Recorder K) (found : Array (Step K)) (primitives : List (Primitive K)) :
    r.resolve found primitives = do return found ++ (← replay r primitives).2.toArray := by
  induction primitives generalizing r found with
  | nil => simp [Recorder.resolve, replay, bind, Except.bind, pure, Except.pure]
  | cons p rest ih =>
    rw [Recorder.resolve, replay]
    cases r.follow p with
    | error failure => rfl
    | ok next =>
      dsimp only
      rw [ih]
      cases replayed : replay next rest with
      | error failure =>
        simp only [bind, Except.bind, replayed]
      | ok out =>
        simp only [bind, Except.bind, replayed, pure, Except.pure, Except.ok.injEq]
        cases r.step? p with
        | none => simp
        | some step => simp

theorem steps_eq (primitives : List (Primitive K)) : Recorder.steps primitives = do return (← replay .initial primitives).2 := by
  rw [Recorder.steps, resolve_replay]
  cases replay Recorder.initial primitives with
  | error failure => rfl
  | ok out => simp [bind, Except.bind, pure, Except.pure]

/-- The steps of primitives are those found in replaying them. -/
theorem steps_replay {primitives : List (Primitive K)} {steps : List (Step K)} :
    Recorder.steps primitives = .ok steps ↔ ∃ last, replay .initial primitives = .ok (last, steps) := by
  rw [steps_eq]
  constructor
  · intro resolved
    obtain ⟨⟨last, found⟩, replayed, resolved⟩ := bind_ok.mp resolved
    cases resolved
    exact ⟨last, replayed⟩
  · rintro ⟨last, replayed⟩
    exact bind_ok.mpr ⟨_, replayed, rfl⟩

/-- Primitives that follow one another are replayed one after the other, and fail where the first of them do. -/
theorem replay_joined (r : Recorder K) (first second : List (Primitive K)) : replay r (first ++ second) = do
    let (middle, before) ← replay r first
    let (last, after) ← replay middle second
    return (last, before ++ after) := by
  induction first generalizing r with
  | nil =>
    rw [List.nil_append]
    cases replayed : replay r second with
    | error failure => simp [replay, replayed, bind, Except.bind]
    | ok out => simp [replay, replayed, bind, Except.bind, pure, Except.pure]
  | cons p rest ih =>
    rw [List.cons_append, replay, replay]
    cases r.follow p with
    | error failure => rfl
    | ok next =>
      simp only [bind, Except.bind, ih]
      cases replay next rest with
      | error failure => rfl
      | ok early =>
        dsimp only [pure, Except.pure]
        cases replay early.1 second with
        | error failure => rfl
        | ok late => simp [List.append_assoc]

theorem replay_append {r last : Recorder K} {first second : List (Primitive K)} {steps : List (Step K)} :
    replay r (first ++ second) = .ok (last, steps) ↔ ∃ middle before after, replay r first = .ok (middle, before) ∧
      replay middle second = .ok (last, after) ∧ steps = before ++ after := by
  rw [replay_joined]
  constructor
  · intro replayed
    obtain ⟨⟨middle, before⟩, early, replayed⟩ := bind_ok.mp replayed
    obtain ⟨⟨end_, after⟩, late, replayed⟩ := bind_ok.mp replayed
    cases replayed
    exact ⟨middle, before, after, early, late, rfl⟩
  · rintro ⟨middle, before, after, early, late, rfl⟩
    exact bind_ok.mpr ⟨_, early, bind_ok.mpr ⟨_, late, rfl⟩⟩

private theorem follow_ok (r : Recorder K) (p : Primitive K) : (∃ next, r.follow p = .ok next) ↔ Coloured [p] := by
  cases p with
  | setPenColour hue saturation brightness opacity =>
    constructor
    · rintro ⟨next, followed⟩ h s b o member
      obtain ⟨text, coloured, _⟩ := bind_ok.mp followed
      cases List.mem_singleton.mp member
      exact ⟨text, coloured⟩
    · intro coloured
      obtain ⟨text, named⟩ := coloured _ _ _ _ List.mem_cons_self
      exact ⟨_, bind_ok.mpr ⟨text, named, rfl⟩⟩
  | _ =>
    refine ⟨fun _ h s b o member => ?_, fun _ => ⟨_, rfl⟩⟩
    cases List.mem_singleton.mp member

/-- Replaying succeeds just if every colour that is set has a text. -/
theorem replay_ok (r : Recorder K) (primitives : List (Primitive K)) : (∃ out, replay r primitives = .ok out) ↔ Coloured primitives := by
  induction primitives generalizing r with
  | nil =>
    refine ⟨fun _ h s b o member => ?_, fun _ => ⟨_, rfl⟩⟩
    cases member
  | cons p rest ih =>
    constructor
    · rintro ⟨⟨last, steps⟩, replayed⟩ h s b o member
      obtain ⟨next, later, followed, replayed, _⟩ := replay_cons.mp replayed
      rcases List.mem_cons.mp member with here | after
      · exact (follow_ok r p).mp ⟨next, followed⟩ h s b o (here ▸ List.mem_cons_self)
      · exact (ih next).mp ⟨_, replayed⟩ h s b o after
    · intro coloured
      obtain ⟨next, followed⟩ := (follow_ok r p).mpr fun h s b o member =>
        coloured h s b o (List.mem_singleton.mp member ▸ List.mem_cons_self)
      obtain ⟨⟨last, steps⟩, replayed⟩ := (ih next).mpr fun h s b o member => coloured h s b o (List.mem_cons_of_mem _ member)
      exact ⟨_, replay_cons.mpr ⟨next, steps, followed, replayed, rfl⟩⟩

/-- Resolving primitives succeeds just if every colour that is set has a text. -/
theorem steps_coloured (primitives : List (Primitive K)) : (∃ steps, Recorder.steps primitives = .ok steps) ↔ Coloured primitives := by
  rw [← replay_ok .initial primitives]
  constructor
  · rintro ⟨steps, resolved⟩
    obtain ⟨last, replayed⟩ := steps_replay.mp resolved
    exact ⟨_, replayed⟩
  · rintro ⟨⟨last, steps⟩, replayed⟩
    exact ⟨steps, steps_replay.mpr ⟨last, replayed⟩⟩

/-- A step has the colour that the recorder began with, or that of a pen that was set. -/
theorem replay_colours {r last : Recorder K} {primitives : List (Primitive K)} {steps : List (Step K)}
    (replayed : replay r primitives = .ok (last, steps)) : ∀ s ∈ steps, s.colour = r.colour ∨
      ∃ hue saturation brightness opacity, .setPenColour hue saturation brightness opacity ∈ primitives ∧
        Pen.colourText hue saturation brightness = .ok s.colour := by
  induction primitives generalizing r steps with
  | nil =>
    cases replayed
    intro s member
    cases member
  | cons p rest ih =>
    obtain ⟨next, later, followed, others, rfl⟩ := replay_cons.mp replayed
    intro s member
    rcases List.mem_append.mp member with here | after
    · obtain ⟨shape, _, rfl⟩ := Option.map_eq_some_iff.mp (Option.mem_toList.mp here)
      exact .inl rfl
    · rcases ih others s after with same | ⟨h, sat, b, o, among, named⟩
      · cases p with
        | setPenColour h sat b o =>
          obtain ⟨text, named, followed⟩ := bind_ok.mp followed
          cases followed
          exact .inr ⟨h, sat, b, o, List.mem_cons_self, named.trans (congrArg Except.ok same.symm)⟩
        | moveTo | lineTo | setLineWidth | penUp | penDown | circle | rectangle =>
          cases followed
          exact .inl same
      · exact .inr ⟨h, sat, b, o, List.mem_cons_of_mem _ among, named⟩

end Lindenmayer.Replaying
