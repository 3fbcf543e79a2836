import Mathlib.Data.List.Forall2
import Lindenmayer.Proofs.Comparing
import Lindenmayer.Proofs.Replaying
import Lindenmayer.Proofs.Writing

/-!
Drawing without a recorder. `sketch` walks a sequence with nothing but a turtle, and puts down a stroke
for every move with the pen down and for every circle and square. A recorder that replays what a pass
emitted agrees with the turtle after every command (`obey_follows`), so the steps that it finds are those
strokes (`walk_follows`). Numbers count as alike if they are one or compare as equal.
-/
namespace Lindenmayer.Sketching
open Outcomes Comparing Replaying Writing

/-- What a turtle shows of itself: its place and its pen. -/
structure Look (K : Type) where
  place : Point K
  width : K
  hue : K
  saturation : K
  brightness : K
  opacity : K
  down : Bool

/-- A shape and the look of the turtle that draws it. -/
structure Stroke (K : Type) where
  shape : Shape K
  pen : Look K

/-- A turtle on its walk, its random numbers, and how often the hook was called. -/
structure Walker (K : Type) where
  turtle : Turtle K
  generator : Generator
  calls : Nat

variable {K : Type}

def look (t : Turtle K) : Look K := ⟨⟨t.x, t.y⟩, t.penWidth, t.hue, t.saturation, t.brightness, t.opacity, t.penDown⟩

variable [Scalar K]

/-! ### The walk of a turtle alone -/

/-- The turtle some distance on. -/
def go (t : Turtle K) (distance : K) : Except Failure (Turtle K) := (t.advance distance).mapError Prod.fst

/-- Does one command. -/
def Walker.order (hook : Option (Hook K)) (w : Walker K) (command : Command) : Except Failure (Walker K) :=
  let t := w.turtle
  match command with
  | .forward => do return { w with turtle := ← go t t.step }
  | .backward => do
    return { w with turtle := (← go (t.turn (Scalar.ofInt 180)) t.step).turn (Scalar.ofInt (-180)) }
  | .halfForward => do return { w with turtle := ← go t (Scalar.half t.step) }
  | .halfBackward => do return { w with turtle := ← go (t.turn (Scalar.ofInt 180)) (Scalar.half t.step) }
  | .penUp => .ok { w with turtle := { t with penDown := false } }
  | .penDown => .ok { w with turtle := { t with penDown := true } }
  | .turn back => .ok { w with turtle := t.turn (Scalar.ofInt (if back then -1 else 1) * t.turnAngle) }
  | .randomTurn =>
    let (turnAngle, generator) := Run.drawAngle w.generator
    .ok { w with turtle := { t with turnAngle }, generator }
  | .randomHue =>
    let (unit, generator) := Run.drawUnit w.generator
    .ok { w with turtle := { t with hue := Scalar.zero + Scalar.ofInt 360 * unit }, generator }
  | .hueShift degrees =>
    .ok { w with turtle := { t with hue := Scalar.floorMod (t.hue + Scalar.ofInt degrees) (Scalar.ofInt 360) } }
  | .randomSaturation =>
    let (saturation, generator) := Run.drawUnit w.generator
    .ok { w with turtle := { t with saturation }, generator }
  | .randomOpacity =>
    let (opacity, generator) := Run.drawUnit w.generator
    .ok { w with turtle := { t with opacity }, generator }
  | .growStep length => .ok { w with turtle := { t with step := t.step + Scalar.ofInt length } }
  | .shrinkStep length => .ok { w with turtle := { t with step := t.step - Scalar.ofInt length } }
  | .penWidth halves => .ok { w with turtle := { t with penWidth := Scalar.halves halves } }
  | .nudge degrees => .ok { w with turtle := t.turn (Scalar.ofInt degrees) }
  | .circle | .square => .ok w
  | .push => .ok { w with turtle := t.push }
  | .pop => .ok { w with turtle := t.pop?.getD t }
  | .asterisk =>
    match hook with
    | some hook => do
      let t ← (Action.run t (hook w.calls t)).mapError Prod.fst
      return { w with turtle := t, calls := w.calls + 1 }
    | none => .ok w

/-- What a command draws: a line for a move with the pen down, and a circle or a square whether it is
    down or not. -/
def drawn (before after : Turtle K) : Command → List (Stroke K)
  | .forward | .backward | .halfForward | .halfBackward =>
    if after.penDown then [⟨.line ⟨before.x, before.y⟩ ⟨after.x, after.y⟩ after.penWidth, look after⟩] else []
  | .circle => [⟨.circle ⟨before.x, before.y⟩ (before.step / Scalar.ofInt 4), look before⟩]
  | .square => [⟨.rectangle ⟨before.x, before.y⟩ (before.step / Scalar.ofInt 4) (before.step / Scalar.ofInt 4), look before⟩]
  | _ => []

/-- Walks a sequence; what is no command is passed over. -/
def Walker.sketch (hook : Option (Hook K)) (w : Walker K) : Sequence → Except Failure (Walker K × List (Stroke K))
  | [] => .ok (w, [])
  | s :: rest =>
    match Command.ofSymbol? s with
    | none => w.sketch hook rest
    | some command => do
      let next ← w.order hook command
      let (last, strokes) ← next.sketch hook rest
      return (last, drawn w.turtle next.turtle command ++ strokes)

/-- A whole walk: the turtle that it leaves, and the strokes. -/
def sketch (hook : Option (Hook K)) (calls : Nat) (randomness : Randomness) (turtle : Turtle K) (step turnAngle : Number K)
    (sequence : Sequence) : Except Failure (Turtle K × List (Stroke K)) := do
  let step ← step.toScalar
  let turnAngle ← turnAngle.toScalar
  let turtle := { turtle with step, turnAngle }
  if sequence.isEmpty then return (turtle, [])
  else
    let generator ← randomness.start
    let (last, strokes) ← Walker.sketch hook { turtle, generator, calls } sequence
    return (last.turtle, strokes)

/-! ### Agreement -/

def LikePoint (p q : Point K) : Prop := Like p.x q.x ∧ Like p.y q.y

def LikeShape : Shape K → Shape K → Prop
  | .line start stop width, .line start' stop' width' => LikePoint start start' ∧ LikePoint stop stop' ∧ Like width width'
  | .circle centre radius, .circle centre' radius' => LikePoint centre centre' ∧ Like radius radius'
  | .rectangle centre width height, .rectangle centre' width' height' =>
    LikePoint centre centre' ∧ Like width width' ∧ Like height height'
  | _, _ => False

/-- The text is that of the pen's colour. -/
def Named (colour : Text) (l : Look K) : Prop :=
  ∃ hue saturation brightness, Like hue l.hue ∧ Like saturation l.saturation ∧ Like brightness l.brightness ∧
    Pen.colourText hue saturation brightness = .ok colour

/-- A recorder is where the turtle is, with the turtle's pen. -/
structure Agrees (r : Recorder K) (l : Look K) : Prop where
  position : LikePoint r.position l.place
  width : Like r.width l.width
  colour : Named r.colour l
  opacity : Like r.opacity l.opacity
  visible : r.visible = l.down

/-- A step draws the shape of a stroke in the colour and opacity of its pen. -/
structure Matches (step : Step K) (stroke : Stroke K) : Prop where
  shape : LikeShape step.shape stroke.shape
  colour : Named step.colour stroke.pen
  opacity : Like step.opacity stroke.pen.opacity

/-- Replaying leads from agreement with one look to agreement with another and finds the strokes. -/
def Follows (before after : Look K) (strokes : List (Stroke K)) (primitives : List (Primitive K)) : Prop :=
  ∀ r, Agrees r before → ∀ last steps, replay r primitives = .ok (last, steps) →
    Agrees last after ∧ List.Forall₂ Matches steps strokes

theorem LikePoint.refl (p : Point K) : LikePoint p p := ⟨.refl _, .refl _⟩

theorem LikePoint.trans [LawfulScalar K] {p q r : Point K} (first : LikePoint p q) (second : LikePoint q r) : LikePoint p r :=
  ⟨first.1.trans second.1, first.2.trans second.2⟩

/-- Looks that are alike to the eye. -/
structure LikeLook (l m : Look K) : Prop where
  place : LikePoint l.place m.place
  width : Like l.width m.width
  hue : Like l.hue m.hue
  saturation : Like l.saturation m.saturation
  brightness : Like l.brightness m.brightness
  opacity : Like l.opacity m.opacity
  down : l.down = m.down

theorem LikeLook.refl (l : Look K) : LikeLook l l := ⟨.refl _, .refl _, .refl _, .refl _, .refl _, .refl _, rfl⟩

theorem Agrees.trans [LawfulScalar K] {r : Recorder K} {l m : Look K} (agrees : Agrees r l) (like : LikeLook l m) : Agrees r m := by
  obtain ⟨hue, saturation, brightness, likeHue, likeSaturation, likeBrightness, named⟩ := agrees.colour
  exact {
    position := agrees.position.trans like.place
    width := agrees.width.trans like.width
    colour := ⟨hue, saturation, brightness, likeHue.trans like.hue, likeSaturation.trans like.saturation,
      likeBrightness.trans like.brightness, named⟩
    opacity := agrees.opacity.trans like.opacity
    visible := agrees.visible.trans like.down }

/-! ### Replaying primitive by primitive -/

theorem Follows.append {before middle after : Look K} {first second : List (Stroke K)} {ps qs : List (Primitive K)}
    (one : Follows before middle first ps) (two : Follows middle after second qs) :
    Follows before after (first ++ second) (ps ++ qs) := by
  intro r agrees last steps replayed
  obtain ⟨between, early, late, replayedFirst, replayedSecond, rfl⟩ := replay_append.mp replayed
  obtain ⟨agreesMiddle, matchesFirst⟩ := one r agrees between early replayedFirst
  obtain ⟨agreesLast, matchesSecond⟩ := two between agreesMiddle last late replayedSecond
  exact ⟨agreesLast, List.rel_append matchesFirst matchesSecond⟩

theorem follows_nil [LawfulScalar K] {before after : Look K} (like : LikeLook before after) : Follows before after [] [] := by
  intro r agrees last steps replayed
  cases replayed
  exact ⟨agrees.trans like, .nil⟩

/-- A primitive that draws nothing changes what the recorder knows. -/
private theorem follows_silent {before after : Look K} {p : Primitive K} (silent : ∀ r : Recorder K, r.shape? p = none)
    (changes : ∀ r next : Recorder K, Agrees r before → r.follow p = .ok next → Agrees next after) :
    Follows before after [] [p] := by
  intro r agrees last steps replayed
  obtain ⟨next, later, followed, nothing, rfl⟩ := replay_cons.mp replayed
  cases nothing
  rw [Recorder.step?, silent r]
  exact ⟨changes r _ agrees followed, .nil⟩

theorem follows_moveTo (l : Look K) (x y : K) : Follows l { l with place := ⟨x, y⟩ } [] [.moveTo x y] := by
  refine follows_silent (fun _ => rfl) fun r next agrees followed => ?_
  cases followed
  exact { agrees with position := .refl _ }

theorem follows_setLineWidth (l : Look K) (width : K) : Follows l { l with width } [] [.setLineWidth width] := by
  refine follows_silent (fun _ => rfl) fun r next agrees followed => ?_
  cases followed
  exact { agrees with width := .refl _ }

theorem follows_setPenColour (l : Look K) (hue saturation brightness opacity : K) :
    Follows l { l with hue, saturation, brightness, opacity } [] [.setPenColour hue saturation brightness opacity] := by
  refine follows_silent (fun _ => rfl) fun r next agrees followed => ?_
  obtain ⟨text, named, done⟩ := bind_ok.mp followed
  cases done
  exact { agrees with colour := ⟨hue, saturation, brightness, .refl _, .refl _, .refl _, named⟩, opacity := .refl _ }

theorem follows_pen (l : Look K) (down : Bool) : Follows l { l with down } [] [if down then .penDown else .penUp] := by
  cases down with
  | true =>
    refine follows_silent (fun _ => rfl) fun r next agrees followed => ?_
    cases followed
    exact { agrees with visible := rfl }
  | false =>
    refine follows_silent (fun _ => rfl) fun r next agrees followed => ?_
    cases followed
    exact { agrees with visible := rfl }

/-- A primitive that changes nothing draws its shape with the pen as it is. -/
private theorem follows_shape (l : Look K) {p : Primitive K} {shape : Shape K} (like : LikeShape shape shape)
    (draws : ∀ r : Recorder K, r.shape? p = some shape) (stays : ∀ r : Recorder K, r.follow p = .ok r) :
    Follows l l [⟨shape, l⟩] [p] := by
  intro r agrees last steps replayed
  obtain ⟨next, later, followed, nothing, rfl⟩ := replay_cons.mp replayed
  cases nothing
  rw [stays r] at followed
  cases followed
  rw [Recorder.step?, draws r]
  exact ⟨agrees, .cons ⟨like, agrees.colour, agrees.opacity⟩ .nil⟩

theorem follows_circle (l : Look K) (x y radius : K) : Follows l l [⟨.circle ⟨x, y⟩ radius, l⟩] [.circle x y radius] :=
  follows_shape l ⟨.refl _, .refl _⟩ (fun _ => rfl) fun _ => rfl

theorem follows_rectangle (l : Look K) (x y width height : K) :
    Follows l l [⟨.rectangle ⟨x, y⟩ width height, l⟩] [.rectangle x y width height] :=
  follows_shape l ⟨.refl _, .refl _, .refl _⟩ (fun _ => rfl) fun _ => rfl

/-- Going somewhere draws a line from the old place to the new one just if the pen is down. -/
theorem follows_move (l : Look K) (x y : K) :
    Follows l { l with place := ⟨x, y⟩ }
      (if l.down then [⟨.line l.place ⟨x, y⟩ l.width, { l with place := ⟨x, y⟩ }⟩] else [])
      [if l.down then .lineTo x y else .moveTo x y] := by
  by_cases down : l.down = true
  · rw [if_pos down, if_pos down]
    intro r agrees last steps replayed
    obtain ⟨next, later, followed, nothing, rfl⟩ := replay_cons.mp replayed
    cases nothing
    cases followed
    have shape : r.shape? (.lineTo x y) = some (.line r.position ⟨x, y⟩ r.width) := by
      rw [Recorder.shape?, if_pos (agrees.visible.trans down)]
    rw [Recorder.step?, shape]
    refine ⟨{ agrees with position := .refl _ }, .cons ⟨?_, agrees.colour, agrees.opacity⟩ .nil⟩
    exact ⟨agrees.position, .refl _, agrees.width⟩
  · rw [if_neg down, if_neg down]
    exact follows_moveTo l x y

/-! ### Commands -/

/-- What was emitted on the way from one run to another follows the looks of their turtles. -/
def Emits (r next : Run K) (strokes : List (Stroke K)) : Prop :=
  ∃ ps, next.emitted.toList = r.emitted.toList ++ ps ∧ Follows (look r.turtle) (look next.turtle) strokes ps

theorem Emits.append {r middle next : Run K} {first second : List (Stroke K)} (one : Emits r middle first)
    (two : Emits middle next second) : Emits r next (first ++ second) := by
  obtain ⟨ps, emittedFirst, followsFirst⟩ := one
  obtain ⟨qs, emittedSecond, followsSecond⟩ := two
  refine ⟨ps ++ qs, ?_, followsFirst.append followsSecond⟩
  rw [emittedSecond, emittedFirst, List.append_assoc]

theorem emits_nothing [LawfulScalar K] {r next : Run K} (emitted : next.emitted = r.emitted)
    (like : LikeLook (look r.turtle) (look next.turtle)) : Emits r next [] :=
  ⟨[], by rw [emitted, List.append_nil], follows_nil like⟩

theorem emits_one {r next : Run K} {p : Primitive K} {strokes : List (Stroke K)} (emitted : next.emitted = r.emitted.push p)
    (follows : Follows (look r.turtle) (look next.turtle) strokes [p]) : Emits r next strokes :=
  ⟨[p], by rw [emitted, Array.toList_push], follows⟩

/-- Only the place changes in going on. -/
theorem advance_look {t after : Turtle K} {distance : K} (advanced : t.advance distance = .ok after) :
    look after = { look t with place := ⟨after.x, after.y⟩ } := by
  rw [advance_ok advanced]
  rfl

theorem move_ok {r next : Run K} {distance : K} (moved : r.move distance = .ok next) :
    ∃ t, r.turtle.advance distance = .ok t ∧ next = (r.withTurtle t).emit (if t.penDown then .lineTo t.x t.y else .moveTo t.x t.y) := by
  rw [Run.move] at moved
  cases advanced : r.turtle.advance distance with
  | error failed =>
    rw [advanced] at moved
    cases moved
  | ok t =>
    rw [advanced] at moved
    cases moved
    exact ⟨t, rfl, rfl⟩

/-- A move emits its line, seen from the place and the pen before. -/
theorem move_emits {r next : Run K} {distance : K} (moved : r.move distance = .ok next) :
    Emits r next (if next.turtle.penDown then
      [⟨.line ⟨r.turtle.x, r.turtle.y⟩ ⟨next.turtle.x, next.turtle.y⟩ next.turtle.penWidth, look next.turtle⟩] else []) := by
  obtain ⟨t, advanced, rfl⟩ := move_ok moved
  have looks := advance_look advanced
  have down : t.penDown = r.turtle.penDown := congrArg Look.down looks
  have width : t.penWidth = r.turtle.penWidth := congrArg Look.width looks
  refine emits_one rfl ?_
  change Follows (look r.turtle) (look t) (if t.penDown then [⟨.line ⟨r.turtle.x, r.turtle.y⟩ ⟨t.x, t.y⟩ t.penWidth, look t⟩] else []) _
  rw [looks, down, width]
  exact follows_move (look r.turtle) t.x t.y

/-! ### Changes by a hook -/

/-- A place that does not count as moved has coordinates that are alike. -/
theorem unmoved_like {before after : Turtle K} (written : Written before) (carries : Carries before after)
    (unmoved : Run.moved before after = false) : LikePoint (look before).place (look after).place := by
  obtain ⟨ledger, kept⟩ := written
  obtain ⟨next, keptNext, _, same⟩ := carries ledger kept
  rw [Run.moved, Bool.or_eq_false_iff, Bool.and_eq_false_iff, Bool.and_eq_false_iff] at unmoved
  constructor
  · rcases unmoved.1 with sameWrite | equal
    · have number : before.writes.x = after.writes.x := by simpa using sameWrite
      have value : before.x = after.x := by
        rw [kept.place.first, keptNext.place.first, ← number, same _ kept.place.firstPast]
      exact .inl value
    · have same : Scalar.same before.x after.x = true := by simpa using equal
      exact .inr same
  · rcases unmoved.2 with sameWrite | equal
    · have number : before.writes.y = after.writes.y := by simpa using sameWrite
      have value : before.y = after.y := by
        rw [kept.place.second, keptNext.place.second, ← number, same _ kept.place.secondPast]
      exact .inl value
    · have same : Scalar.same before.y after.y = true := by simpa using equal
      exact .inr same

/-- The numbers that make up the colour of a pen. -/
def penFields : List (Turtle.Field × (Turtle K → K)) :=
  [(.hue, (·.hue)), (.saturation, (·.saturation)), (.brightness, (·.brightness)), (.opacity, (·.opacity))]

private theorem perform_unset {t after : Turtle K} {action : Action K} {f : Turtle.Field} {get : Turtle K → K}
    (pen : (f, get) ∈ penFields) (performed : action.perform t = .ok after) (unset : action.field? ≠ some f) : get after = get t := by
  have sameLook (same : (look after).hue = (look t).hue ∧ (look after).saturation = (look t).saturation ∧
      (look after).brightness = (look t).brightness ∧ (look after).opacity = (look t).opacity) : get after = get t := by
    obtain ⟨hue, saturation, brightness, opacity⟩ := same
    simp only [penFields, List.mem_cons, Prod.mk.injEq, List.not_mem_nil, or_false] at pen
    rcases pen with ⟨-, rfl⟩ | ⟨-, rfl⟩ | ⟨-, rfl⟩ | ⟨-, rfl⟩
    · exact hue
    · exact saturation
    · exact brightness
    · exact opacity
  cases action with
  | set field value =>
    cases performed
    simp only [penFields, List.mem_cons, Prod.mk.injEq, List.not_mem_nil, or_false] at pen
    have other : field ≠ f := fun same => unset (congrArg some same)
    rcases pen with ⟨rfl, rfl⟩ | ⟨rfl, rfl⟩ | ⟨rfl, rfl⟩ | ⟨rfl, rfl⟩
    · cases field with
      | hue => exact absurd rfl other
      | _ => rfl
    · cases field with
      | saturation => exact absurd rfl other
      | _ => rfl
    · cases field with
      | brightness => exact absurd rfl other
      | _ => rfl
    · cases field with
      | opacity => exact absurd rfl other
      | _ => rfl
  | advance distance =>
    refine sameLook ?_
    rw [advance_look performed]
    exact ⟨rfl, rfl, rfl, rfl⟩
  | pop =>
    cases performed
    refine sameLook ?_
    cases standing : t.stack with
    | nil => simp [Turtle.pop?, standing]
    | cons place rest => simp [Turtle.pop?, standing, look]
  | setPen | turn | push =>
    cases performed
    exact sameLook ⟨rfl, rfl, rfl, rfl⟩

private theorem run_unset {t after : Turtle K} {actions : List (Action K)} {f : Turtle.Field} {get : Turtle K → K}
    (pen : (f, get) ∈ penFields) (done : Action.run t actions = .ok after) (unset : f ∉ Action.fields actions) :
    get after = get t := by
  induction actions generalizing t with
  | nil =>
    cases done
    rfl
  | cons action rest ih =>
    rw [Action.run] at done
    obtain ⟨middle, performed, done⟩ := bind_ok.mp done
    have apart : action.field? ≠ some f ∧ f ∉ Action.fields rest := by
      rw [Action.fields, List.filterMap_cons] at unset
      cases field : action.field? with
      | none =>
        rw [field] at unset
        exact ⟨(Option.some_ne_none f).symm, unset⟩
      | some other =>
        rw [field] at unset
        obtain ⟨distinct, later⟩ := List.ne_and_not_mem_of_not_mem_cons unset
        exact ⟨fun same => distinct (Option.some_inj.mp same).symm, later⟩
    rw [ih done apart.2, perform_unset pen performed apart.1]

/-- A number of the pen that does not count as changed is alike. -/
theorem unchanged_like {t after : Turtle K} {actions : List (Action K)} (done : Action.run t actions = .ok after)
    (unchanged : Run.changed t after (Action.fields actions) penFields = false) {f : Turtle.Field} {get : Turtle K → K}
    (pen : (f, get) ∈ penFields) : Like (get t) (get after) := by
  have each : ((Action.fields actions).contains f && !Scalar.same (get t) (get after)) = false :=
    List.any_eq_false.mp unchanged (f, get) pen |> Bool.eq_false_iff.mpr
  rcases Bool.and_eq_false_iff.mp each with unset | equal
  · have absent : f ∉ Action.fields actions := by simpa using unset
    exact .inl (run_unset pen done absent).symm
  · exact .inr (by simpa using equal)

/-- The primitives that tell what a hook changed. -/
def changes (before after : Turtle K) (set : List Turtle.Field) : List (Primitive K) :=
  (if Run.moved before after then [.moveTo after.x after.y] else []) ++
    ((if Scalar.same before.penWidth after.penWidth then [] else [.setLineWidth after.penWidth]) ++
      ((if Run.changed before after set penFields then
          [.setPenColour after.hue after.saturation after.brightness after.opacity] else []) ++
        if before.penDown = after.penDown then [] else [if after.penDown then .penDown else .penUp]))

omit [Scalar K] in
private theorem emit_when (c : Prop) [Decidable c] (r : Run K) (p : Primitive K) :
    (if c then r.emit p else r) = { r with emitted := r.emitted ++ (if c then [p] else []).toArray } := by
  by_cases told : c
  · simp [told, Run.emit]
  · simp [told]

omit [Scalar K] in
private theorem emit_unless (c : Prop) [Decidable c] (r : Run K) (p : Primitive K) :
    (if c then r else r.emit p) = { r with emitted := r.emitted ++ (if c then [] else [p]).toArray } := by
  by_cases same : c
  · simp [same]
  · simp [same, Run.emit]

theorem emitChanges_emitted (before : Turtle K) (set : List Turtle.Field) (r : Run K) :
    Run.emitChanges before set r = { r with emitted := r.emitted ++ (changes before r.turtle set).toArray } := by
  simp only [Run.emitChanges, Run.emitPlace, Run.emitWidth, Run.emitColour, Run.emitPen, emit_when, emit_unless]
  simp only [changes, ← List.append_toArray, Array.append_assoc]
  rfl

/-- What a hook changed is told, one thing after the other, and what it is not told is alike. -/
theorem follows_changes [LawfulScalar K] {t after : Turtle K} {actions : List (Action K)} (written : Written t)
    (done : Action.run t actions = .ok after) :
    Follows (look t) (look after) [] (changes t after (Action.fields actions)) := by
  let l := look t
  let m := look after
  have place : Follows l { l with place := m.place } [] (if Run.moved t after then [.moveTo after.x after.y] else []) := by
    by_cases moved : Run.moved t after = true
    · rw [if_pos moved]
      exact follows_moveTo l after.x after.y
    · rw [if_neg moved]
      exact follows_nil { LikeLook.refl l with place := unmoved_like written (run_carries done) (by simpa using moved) }
  have width : Follows { l with place := m.place } { l with place := m.place, width := m.width } []
      (if Scalar.same t.penWidth after.penWidth then [] else [.setLineWidth after.penWidth]) := by
    by_cases same : Scalar.same t.penWidth after.penWidth = true
    · rw [if_pos same]
      exact follows_nil { LikeLook.refl { l with place := m.place } with width := .inr same }
    · rw [if_neg same]
      exact follows_setLineWidth _ after.penWidth
  have colour : Follows { l with place := m.place, width := m.width } { m with down := l.down } []
      (if Run.changed t after (Action.fields actions) penFields then
        [.setPenColour after.hue after.saturation after.brightness after.opacity] else []) := by
    by_cases changed : Run.changed t after (Action.fields actions) penFields = true
    · rw [if_pos changed]
      exact follows_setPenColour _ after.hue after.saturation after.brightness after.opacity
    · rw [if_neg changed]
      have like (f : Turtle.Field) (get : Turtle K → K) (pen : (f, get) ∈ penFields) : Like (get t) (get after) :=
        unchanged_like done (by simpa using changed) pen
      exact follows_nil {
        LikeLook.refl { l with place := m.place, width := m.width } with
        hue := like .hue (·.hue) (by simp [penFields])
        saturation := like .saturation (·.saturation) (by simp [penFields])
        brightness := like .brightness (·.brightness) (by simp [penFields])
        opacity := like .opacity (·.opacity) (by simp [penFields]) }
  have pen : Follows { m with down := l.down } m []
      (if t.penDown = after.penDown then [] else [if after.penDown then .penDown else .penUp]) := by
    by_cases same : t.penDown = after.penDown
    · rw [if_pos same]
      exact follows_nil { LikeLook.refl { m with down := l.down } with down := same }
    · rw [if_neg same]
      exact follows_pen _ after.penDown
  exact place.append (width.append (colour.append pen))

/-! ### Commands obeyed -/

theorem callHook_ok {hook : Hook K} {r next : Run K} (called : r.callHook hook = .ok next) :
    ∃ t, Action.run r.turtle (hook r.calls r.turtle) = .ok t ∧ next = { r with
      turtle := t, calls := r.calls + 1,
      emitted := r.emitted ++ (changes r.turtle t (Action.fields (hook r.calls r.turtle))).toArray } := by
  rw [Run.callHook] at called
  cases done : Action.run r.turtle (hook r.calls r.turtle) with
  | error failed =>
    rw [done] at called
    cases called
  | ok t =>
    rw [done] at called
    cases called
    exact ⟨t, rfl, emitChanges_emitted ..⟩

theorem backward_ok {hook : Option (Hook K)} {r next : Run K} (obeyed : r.obey hook .backward = .ok next) :
    ∃ middle, (r.turn (Scalar.ofInt 180)).move r.turtle.step = .ok middle ∧ next = middle.turn (Scalar.ofInt (-180)) := by
  rw [Run.obey] at obeyed
  cases moved : (r.turn (Scalar.ofInt 180)).move r.turtle.step with
  | error failed =>
    rw [moved] at obeyed
    cases obeyed
  | ok middle =>
    rw [moved] at obeyed
    cases obeyed
    exact ⟨middle, rfl, rfl⟩

theorem pop_ok {hook : Option (Hook K)} {r next : Run K} (obeyed : r.obey hook .pop = .ok next) :
    (r.turtle.pop? = none ∧ next = r) ∨ ∃ t, r.turtle.pop? = some t ∧ next = (r.withTurtle t).emitPlace := by
  rw [Run.obey] at obeyed
  cases popped : r.turtle.pop? with
  | none =>
    rw [popped] at obeyed
    cases obeyed
    exact .inl ⟨rfl, rfl⟩
  | some t =>
    rw [popped] at obeyed
    cases obeyed
    exact .inr ⟨t, rfl, rfl⟩

/-- Obeying a command emits what it draws, and what else the recorder has to know. -/
theorem obey_emits [LawfulScalar K] {hook : Option (Hook K)} {r next : Run K} {command : Command} (written : Written r.turtle)
    (obeyed : r.obey hook command = .ok next) : Emits r next (drawn r.turtle next.turtle command) := by
  cases command with
  | forward => exact move_emits obeyed
  | backward =>
    obtain ⟨middle, moved, rfl⟩ := backward_ok obeyed
    -- turning changes nothing that shows
    have told := move_emits moved
    exact told
  | halfForward => exact move_emits obeyed
  | halfBackward => exact move_emits (r := r.turn (Scalar.ofInt 180)) obeyed
  | penUp =>
    cases obeyed
    exact emits_one rfl (follows_pen (look r.turtle) false)
  | penDown =>
    cases obeyed
    exact emits_one rfl (follows_pen (look r.turtle) true)
  | randomHue | hueShift | randomSaturation | randomOpacity =>
    cases obeyed
    exact emits_one rfl (follows_setPenColour (look r.turtle) _ _ _ _)
  | penWidth halves =>
    cases obeyed
    exact emits_one rfl (follows_setLineWidth (look r.turtle) _)
  | circle =>
    cases obeyed
    exact emits_one rfl (follows_circle (look r.turtle) _ _ _)
  | square =>
    cases obeyed
    exact emits_one rfl (follows_rectangle (look r.turtle) _ _ _ _)
  | turn | randomTurn | growStep | shrinkStep | nudge | push =>
    cases obeyed
    exact emits_nothing rfl (LikeLook.refl _)
  | pop =>
    rw [Run.obey] at obeyed
    cases standing : r.turtle.stack with
    | nil =>
      have nowhere : r.turtle.pop? = none := by rw [Turtle.pop?, standing]
      rw [nowhere] at obeyed
      cases obeyed
      exact emits_nothing rfl (LikeLook.refl _)
    | cons place rest =>
      rw [Turtle.pop?, standing] at obeyed
      cases obeyed
      exact emits_one rfl (follows_moveTo (look r.turtle) place.x place.y)
  | asterisk =>
    cases hook with
    | none =>
      cases obeyed
      exact emits_nothing rfl (LikeLook.refl _)
    | some hook =>
      obtain ⟨t, done, rfl⟩ := callHook_ok obeyed
      exact ⟨_, Array.toList_append, follows_changes written done⟩

end Lindenmayer.Sketching
