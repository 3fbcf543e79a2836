import Lindenmayer.Animation
import Lindenmayer.Scalar.Double
import Mathlib.Data.List.Induction
import Mathlib.Logic.Function.Basic

/-!
Renders whose streams share one capture. A turn of a render begins it or takes its stream to the next frame,
and turns of different renders come in any order. A frame does not say whose it is. So a snapshot shows the
render that it names as long as no stream goes on after another render has begun, and where all renders
complete only then (`snapshots_in_order`): a stream that was overtaken ends in the capture of the render that
overtook it (`overtaken_snapshot`).
-/
namespace Lindenmayer.Streaming

/-- A render that is asked for, with the label that names it. -/
structure Render (K F : Type) where
  label : Value
  frame : Frame
  background : Colour
  steps : List (StepRecord K)
  encoder : Encoder F

/-- Renders under way: the capture that they share, and the streams of those that have begun. -/
structure Running (ι K F : Type) where
  capture : Capture F
  streams : ι → Option (Animation K F)

section
variable {K F : Type} [Scalar K]

/-- The frames that still come of an animation, unless it fails. -/
def coming (encoder : Encoder F) (a : Animation K F) : Option (List F) :=
  match (a.run encoder a.length #[]).2 with
  | (frames, none) => some frames.toList
  | (_, some _) => none

/-- The stream of a render before its first frame. -/
def Render.stream (r : Render K F) : Animation K F := .start r.frame r.background r.steps none

/-- The frames of a render, the final one last, unless it fails. -/
def Render.frames (r : Render K F) : Option (List F) := coming r.encoder r.stream

/-- A snapshot shows a render: it has the render's label, its frames are frames of the render, and its last
    frame is the final one. -/
structure Shows (r : Render K F) (snapshot : Snapshot F) : Prop where
  labelled : snapshot.label = some r.label
  frames : ∃ frames, r.frames = some frames ∧ (∀ f ∈ snapshot.frames, f ∈ frames) ∧
    ∃ final, frames.getLast? = some final ∧ snapshot.frames.getLast? = some final

/-! ### One stream -/

/-- An animation with another capture, or none. -/
def attach (a : Animation K F) (capture : Option (Capture F)) : Animation K F := { a with capture }

/-- What comes next of an open stream: it fails, it offers a frame and has one step fewer to go, or it has no
    step to go and finishes with its final frame. The capture has no part in it. -/
inductive Comes (encoder : Encoder F) (a : Animation K F) : Prop where
  | failure (b : Animation K F) (failure : Failure) (closed : b.closed = true)
      (next : ∀ capture, (attach a capture).next encoder = (attach b capture, .failed failure))
  | offer (b : Animation K F) (f : F) (opened : b.closed = false) (fewer : b.rest.length + 1 = a.rest.length)
      (next : ∀ capture, (attach a capture).next encoder = (attach b (capture.map fun c => (c.offer f).1), .frame f))
  | finish (b : Animation K F) (f : F) (closed : b.closed = true) (last : a.rest = [])
      (next : ∀ capture, (attach a capture).next encoder = (attach b (capture.map (·.finish f)), .frame f))

theorem next_closed {a : Animation K F} (closed : a.closed = true) (encoder : Encoder F) : a.next encoder = (a, .ended) := by
  rw [Animation.next, if_pos closed]

theorem next_open {a : Animation K F} (opened : a.closed = false) (encoder : Encoder F) : Comes encoder a := by
  have goes (capture : Option (Capture F)) : ¬ (attach a capture).closed = true := by
    rw [attach, opened]
    decide
  -- Nothing up to the encoded frame looks at the capture.
  have canvas (capture : Option (Capture F)) : (attach a capture).currentCanvas = a.currentCanvas := rfl
  cases made : a.currentCanvas with
  | error failure =>
    refine .failure a.close failure rfl fun capture => ?_
    rw [Animation.next, if_neg (goes capture), canvas, made]
    rfl
  | ok drawn =>
    cases steps : a.rest with
    | nil =>
      cases encoded : encoder a.encoded drawn with
      | none =>
        refine .failure { a with canvas := some drawn, encoded := a.encoded + 1, rest := [], closed := true } .encodingFailed rfl
          fun capture => ?_
        rw [Animation.next, if_neg (goes capture), canvas, made]
        simp only [attach, steps, Animation.encode, Animation.close, encoded]
      | some f =>
        refine .finish { a with canvas := some drawn, encoded := a.encoded + 1, rest := [], closed := true } f rfl steps
          fun capture => ?_
        rw [Animation.next, if_neg (goes capture), canvas, made]
        simp only [attach, steps, Animation.encode, Animation.close, encoded]
    | cons step rest =>
      cases drew : drawn.draw step with
      | error failure =>
        refine .failure { a with canvas := some drawn }.close failure rfl fun capture => ?_
        rw [Animation.next, if_neg (goes capture), canvas, made]
        simp only [attach, steps, drew, Animation.close]
      | ok canvas' =>
        cases encoded : encoder a.encoded canvas' with
        | none =>
          refine .failure { a with canvas := some canvas', encoded := a.encoded + 1, rest := [], closed := true } .encodingFailed rfl
            fun capture => ?_
          rw [Animation.next, if_neg (goes capture), canvas, made]
          simp only [attach, steps, drew, Animation.encode, Animation.close, encoded]
        | some f =>
          refine .offer { a with canvas := some canvas', encoded := a.encoded + 1, rest := rest } f opened ?_
            fun capture => ?_
          · rw [steps]
            rfl
          · rw [Animation.next, if_neg (goes capture), canvas, made]
            simp only [attach, steps, drew, Animation.encode, encoded]

theorem run_attach (encoder : Encoder F) (n : Nat) (found : Array F) (a : Animation K F) (one other : Option (Capture F)) :
    ((attach a one).run encoder n found).2 = ((attach a other).run encoder n found).2 := by
  induction n generalizing found a one other with
  | zero => rfl
  | succ n ih =>
    rw [Animation.run, Animation.run]
    cases closed : a.closed with
    | true =>
      have ends (capture : Option (Capture F)) : (attach a capture).next encoder = (attach a capture, .ended) :=
        next_closed (a := attach a capture) closed encoder
      rw [ends, ends]
    | false =>
      cases next_open closed encoder with
      | failure b failure _ next => rw [next, next]
      | offer b f _ _ next =>
        rw [next, next]
        exact ih _ b _ _
      | finish b f _ _ next =>
        rw [next, next]
        exact ih _ b _ _

theorem coming_attach (encoder : Encoder F) (a : Animation K F) (capture : Option (Capture F)) :
    coming encoder (attach a capture) = coming encoder a := by
  have same := run_attach encoder a.length #[] a capture a.capture
  have long : (attach a capture).length = a.length := rfl
  have self : attach a a.capture = a := rfl
  rw [coming, coming, long, same, self]

theorem run_found (encoder : Encoder F) (n : Nat) (found : Array F) (a : Animation K F) :
    (a.run encoder n found).2 = (found ++ (a.run encoder n #[]).2.1, (a.run encoder n #[]).2.2) := by
  induction n generalizing found a with
  | zero => simp [Animation.run]
  | succ n ih =>
    rw [Animation.run, Animation.run]
    rcases a.next encoder with ⟨b, f | failure | _⟩
    · dsimp only
      rw [ih (found.push f), ih (#[].push f)]
      simp
    · simp
    · simp

theorem coming_failed {encoder : Encoder F} {a b : Animation K F} {failure : Failure}
    (next : a.next encoder = (b, .failed failure)) : coming encoder a = none := by
  rw [coming, Animation.length, Animation.run, next]

theorem coming_frame {encoder : Encoder F} {a b : Animation K F} {f : F} (next : a.next encoder = (b, .frame f))
    (fewer : b.length = a.rest.length) : coming encoder a = (f :: ·) <$> coming encoder b := by
  rw [coming, coming, Animation.length, Animation.run, next, fewer]
  dsimp only
  rw [run_found]
  rcases (b.run encoder a.rest.length #[]).2 with ⟨frames, failure | _⟩
  · simp
  · simp

theorem coming_final {encoder : Encoder F} {a b : Animation K F} {f : F} (next : a.next encoder = (b, .frame f))
    (last : a.rest = []) : coming encoder a = some [f] := by
  rw [coming, Animation.length, last, List.length_nil, Animation.run, next]
  rfl

end

/-! ### Turns -/

section
variable {ι K F : Type} [DecidableEq ι] [Scalar K]

/-- What runs before any render has begun. -/
def Running.idle (c : Capture F) : Running ι K F := ⟨c, fun _ => none⟩

/-- A turn of a render: it begins, or its stream goes on to the next frame and hands it to the capture. -/
def turn (renders : ι → Render K F) (s : Running ι K F) (i : ι) : Running ι K F :=
  match s.streams i with
  | none => ⟨s.capture.begin (some (renders i).label), Function.update s.streams i (some (renders i).stream)⟩
  | some a =>
    let (b, _) := (attach a (some s.capture)).next (renders i).encoder
    ⟨b.capture.getD s.capture, Function.update s.streams i (some (attach b a.capture))⟩

/-- What runs after turns in an order. -/
def running (renders : ι → Render K F) (c : Capture F) (schedule : List ι) : Running ι K F :=
  schedule.foldl (turn renders) (.idle c)

/-- A render has begun, and nothing comes of it any more. -/
def Over (s : Running ι K F) (i : ι) : Prop := ∃ a, s.streams i = some a ∧ a.closed = true

/-- No stream goes on after another render has begun: the later turns of an earlier one find it over. -/
def Orderly (renders : ι → Render K F) (c : Capture F) (schedule : List ι) : Prop :=
  ∀ first i middle j rest, schedule = first ++ i :: middle ++ j :: rest → i ∉ first → j ∈ first →
    Over (running renders c (first ++ i :: middle)) j

theorem running_snoc (renders : ι → Render K F) (c : Capture F) (schedule : List ι) (i : ι) :
    running renders c (schedule ++ [i]) = turn renders (running renders c schedule) i := by
  rw [running, List.foldl_append]
  rfl

variable {renders : ι → Render K F} {c : Capture F}

theorem turn_other (s : Running ι K F) {i j : ι} (other : j ≠ i) : (turn renders s i).streams j = s.streams j := by
  rw [turn]
  cases s.streams i with
  | none => exact Function.update_of_ne other ..
  | some a => exact Function.update_of_ne other ..

theorem running_begun (schedule : List ι) (j : ι) : (running renders c schedule).streams j = none ↔ j ∉ schedule := by
  induction schedule using List.reverseRecOn with
  | nil => exact ⟨fun _ => List.not_mem_nil, fun _ => rfl⟩
  | append_singleton schedule i ih =>
    rw [running_snoc]
    by_cases here : j = i
    · subst here
      have begun : (turn renders (running renders c schedule) j).streams j ≠ none := by
        rw [turn]
        cases (running renders c schedule).streams j with
        | none => simp
        | some a => simp
      simp [begun]
    · rw [turn_other _ here, ih]
      simp [here]

theorem turn_over {s : Running ι K F} {i : ι} (spent : Over s i) : turn renders s i = s := by
  obtain ⟨a, begun, closed⟩ := spent
  have still : (attach a (some s.capture)).closed = true := closed
  rw [turn, begun]
  dsimp only
  rw [next_closed still]
  change Running.mk s.capture (Function.update s.streams i (some a)) = s
  rw [← begun, Function.update_eq_self]

theorem turn_new {s : Running ι K F} {i : ι} (new : s.streams i = none) :
    turn renders s i = ⟨s.capture.begin (some (renders i).label), Function.update s.streams i (some (renders i).stream)⟩ := by
  rw [turn, new]

/-- What a turn makes of a stream that has begun, and of the capture. -/
inductive Goes (r : Render K F) (a : Animation K F) (c : Capture F) : Animation K F → Capture F → Prop where
  | spent (closed : a.closed = true) : Goes r a c a c
  | failure {b : Animation K F} (opened : a.closed = false) (closed : b.closed = true)
      (fails : coming r.encoder a = none) : Goes r a c b c
  | offer {b : Animation K F} {f : F} (opened : a.closed = false) (still : b.closed = false)
      (comes : coming r.encoder a = (f :: ·) <$> coming r.encoder b) : Goes r a c b (c.offer f).1
  | finish {b : Animation K F} {f : F} (opened : a.closed = false) (closed : b.closed = true)
      (final : coming r.encoder a = some [f]) : Goes r a c b (c.finish f)

theorem turn_goes {s : Running ι K F} {i : ι} {a : Animation K F} (begun : s.streams i = some a) :
    ∃ b c, turn renders s i = ⟨c, Function.update s.streams i (some b)⟩ ∧ Goes (renders i) a s.capture b c := by
  cases opened : a.closed with
  | true =>
    refine ⟨a, s.capture, ?_, .spent opened⟩
    rw [turn_over ⟨a, begun, opened⟩, ← begun, Function.update_eq_self]
  | false =>
    rw [turn, begun]
    dsimp only
    cases next_open opened (renders i).encoder with
    | failure b failure closed next =>
      have fails := coming_failed (next a.capture)
      rw [next]
      exact ⟨_, _, rfl, .failure opened closed fails⟩
    | offer b f still fewer next =>
      have comes := coming_frame (next a.capture) fewer
      rw [next]
      refine ⟨_, _, rfl, .offer opened still ?_⟩
      simp only [coming_attach] at comes ⊢
      exact comes
    | finish b f closed last next =>
      have final := coming_final (next a.capture) last
      rw [next]
      exact ⟨_, _, rfl, .finish opened closed final⟩

/-! ### Turns in order -/

/-- An open stream has given some frames of its render and has the others still to give. -/
def Ahead (r : Render K F) (a : Animation K F) (given : List F) : Prop :=
  a.closed = false → r.frames = (given ++ ·) <$> coming r.encoder a

/-- A capture holds what a stream has given it, and is finished only with all that comes of the stream. -/
structure Follows (r : Render K F) (a : Animation K F) (c : Capture F) (given : List F) : Prop where
  labelled : c.label = some r.label
  held : ∀ f ∈ c.frames, f ∈ given
  ahead : Ahead r a given
  unfinished : a.closed = false → c.finished = false
  finished : c.finished = true → r.frames = some given ∧
    ∃ final, given.getLast? = some final ∧ c.frames.toList.getLast? = some final

theorem begin_follows (r : Render K F) (c : Capture F) : Follows r r.stream (c.begin (some r.label)) [] where
  labelled := rfl
  held f member := absurd member (Array.not_mem_empty f)
  ahead _ := (id_map r.frames).symm
  unfinished _ := rfl
  finished done := by cases done

theorem offer_held {c : Capture F} {f g : F} (member : g ∈ (c.offer f).1.frames) : g ∈ c.frames ∨ g = f := by
  change g ∈ (if c.keepsNext then c.frames.push f else c.frames) at member
  split at member
  · exact Array.mem_push.mp member
  · exact .inl member

theorem closed_ahead {r : Render K F} {a : Animation K F} (closed : a.closed = true) (given : List F) : Ahead r a given := by
  intro opened
  rw [closed] at opened
  cases opened

theorem offer_ahead {r : Render K F} {a b : Animation K F} {f : F} {given : List F} (ahead : Ahead r a given)
    (opened : a.closed = false) (comes : coming r.encoder a = (f :: ·) <$> coming r.encoder b) : Ahead r b (given ++ [f]) := by
  intro _
  rw [ahead opened, comes]
  cases coming r.encoder b with
  | none => rfl
  | some frames => simp

theorem goes_ahead {r : Render K F} {a b : Animation K F} {c d : Capture F} {given : List F} (ahead : Ahead r a given)
    (goes : Goes r a c b d) : ∃ given, Ahead r b given := by
  cases goes with
  | spent => exact ⟨given, ahead⟩
  | failure _ closed => exact ⟨given, closed_ahead closed given⟩
  | offer opened _ comes => exact ⟨_, offer_ahead ahead opened comes⟩
  | finish _ closed => exact ⟨given, closed_ahead closed given⟩

theorem goes_follows {r : Render K F} {a b : Animation K F} {c d : Capture F} {given : List F} (follows : Follows r a c given)
    (goes : Goes r a c b d) : ∃ given, Follows r b d given := by
  have held {f g : F} (member : g ∈ c.frames ∨ g = f) : g ∈ given ++ [f] := by
    rcases member with former | new
    · exact List.mem_append_left _ (follows.held g former)
    · exact List.mem_append_right _ (List.mem_singleton.mpr new)
  cases goes with
  | spent => exact ⟨given, follows⟩
  | failure opened closed fails =>
    have unfinished := follows.unfinished opened
    exact ⟨given, follows.labelled, follows.held, closed_ahead closed given, fun _ => unfinished, follows.finished⟩
  | @offer _ f opened still comes =>
    have unfinished : (c.offer f).1.finished = false := follows.unfinished opened
    refine ⟨given ++ [f], follows.labelled, fun g member => held (offer_held member), offer_ahead follows.ahead opened comes,
      fun _ => unfinished, fun done => ?_⟩
    rw [unfinished] at done
    cases done
  | @finish _ f opened closed final =>
    have whole : r.frames = some (given ++ [f]) := by
      rw [follows.ahead opened, final]
      rfl
    refine ⟨given ++ [f], follows.labelled, fun g member => held (Array.mem_push.mp member), closed_ahead closed _,
      fun still => ?_, fun _ => ⟨whole, f, List.getLast?_concat, ?_⟩⟩
    · rw [closed] at still
      cases still
    · rw [Capture.finish, Array.toList_push]
      exact List.getLast?_concat

/-- The capture follows the render that began last, which no other has disturbed. -/
def Undisturbed (renders : ι → Render K F) (schedule : List ι) (s : Running ι K F) : Prop :=
  ∃ first i middle a given, schedule = first ++ i :: middle ∧ i ∉ first ∧ (∀ j ∈ middle, j ∈ first ∨ j = i) ∧
    s.streams i = some a ∧ Follows (renders i) a s.capture given

theorem orderly_undisturbed {schedule : List ι} (orderly : Orderly renders c schedule) (begun : schedule ≠ []) :
    Undisturbed renders schedule (running renders c schedule) := by
  -- By the last turn: it begins a render, or goes on with the last that began, or it is an earlier one's and
  -- finds it over.
  induction schedule using List.reverseRecOn with
  | nil => exact absurd rfl begun
  | append_singleton schedule j ih =>
    have earlier : Orderly renders c schedule := by
      intro first i middle k rest split
      exact orderly first i middle k (rest ++ [j]) (by simp [split])
    rw [running_snoc]
    by_cases former : j ∈ schedule
    · obtain ⟨first, i, middle, a, given, rfl, new, known, standing, follows⟩ := ih earlier (List.ne_nil_of_mem former)
      have known' (knownToo : j ∈ first ∨ j = i) : ∀ k ∈ middle ++ [j], k ∈ first ∨ k = i := by
        intro k member
        rcases List.mem_append.mp member with between | last
        · exact known k between
        · exact List.mem_singleton.mp last ▸ knownToo
      by_cases same : j = i
      · subst same
        obtain ⟨b, d, turned, goes⟩ := turn_goes standing
        obtain ⟨more, followsStill⟩ := goes_follows follows goes
        rw [turned]
        exact ⟨first, j, middle ++ [j], b, more, by simp, new, known' (.inr rfl), Function.update_self .., followsStill⟩
      · have overtaken : j ∈ first := by
          rcases List.mem_append.mp former with before | after
          · exact before
          · rcases List.mem_cons.mp after with last | between
            · exact absurd last same
            · exact (known j between).resolve_right same
        rw [turn_over (orderly first i middle j [] (by simp) new overtaken)]
        exact ⟨first, i, middle ++ [j], a, given, by simp, new, known' (.inl overtaken), standing, follows⟩
    · rw [turn_new ((running_begun schedule j).mpr former)]
      refine ⟨schedule, j, [], _, [], rfl, former, fun _ none => absurd none List.not_mem_nil, Function.update_self .., ?_⟩
      exact begin_follows _ _

theorem orderly_shows (fresh : c.finished = false) {schedule : List ι} (orderly : Orderly renders c schedule) {snapshot : Snapshot F}
    (read : (running renders c schedule).capture.snapshot = some snapshot) : ∃ i ∈ schedule, Shows (renders i) snapshot := by
  have finished : (running renders c schedule).capture.finished = true := by
    by_contra unfinished
    rw [Capture.snapshot, if_neg unfinished] at read
    cases read
  rw [Capture.snapshot, if_pos finished] at read
  cases read
  by_cases begun : schedule = []
  · subst begun
    change c.finished = true at finished
    rw [fresh] at finished
    cases finished
  · obtain ⟨first, i, middle, a, given, split, _, _, _, follows⟩ := orderly_undisturbed orderly begun
    have member : i ∈ schedule := split ▸ List.mem_append_right _ List.mem_cons_self
    obtain ⟨whole, final, last, shown⟩ := follows.finished finished
    have held (f : F) (kept : f ∈ (running renders c schedule).capture.frames.toList) : f ∈ given :=
      follows.held f (Array.mem_toList_iff.mp kept)
    exact ⟨i, member, follows.labelled, given, whole, held, final, last, shown⟩

/-! ### Turns out of order -/

theorem running_ahead {schedule : List ι} {j : ι} {a : Animation K F} (standing : (running renders c schedule).streams j = some a) :
    ∃ given, Ahead (renders j) a given := by
  induction schedule using List.reverseRecOn generalizing a with
  | nil => cases standing
  | append_singleton schedule i ih =>
    rw [running_snoc] at standing
    by_cases same : j = i
    · subst same
      cases former : (running renders c schedule).streams j with
      | none =>
        rw [turn_new former] at standing
        cases (Function.update_self ..).symm.trans standing
        exact ⟨[], fun _ => (id_map _).symm⟩
      | some b =>
        obtain ⟨given, ahead⟩ := ih former
        obtain ⟨_, _, turned, goes⟩ := turn_goes former
        rw [turned] at standing
        cases (Function.update_self ..).symm.trans standing
        exact goes_ahead ahead goes
    · rw [turn_other _ same] at standing
      exact ih standing

/-- The label that a capture bears names a render that began last or later. -/
theorem running_labelled (first : List ι) {i : ι} (new : i ∉ first) (middle : List ι) :
    ∃ k, k ∉ first ∧ (running renders c (first ++ i :: middle)).capture.label = some (renders k).label := by
  induction middle using List.reverseRecOn with
  | nil =>
    rw [running_snoc, turn_new ((running_begun first i).mpr new)]
    exact ⟨i, new, rfl⟩
  | append_singleton middle j ih =>
    have snoc : first ++ i :: (middle ++ [j]) = (first ++ i :: middle) ++ [j] := by simp
    rw [snoc, running_snoc]
    obtain ⟨k, later, labelled⟩ := ih
    cases standing : (running renders c (first ++ i :: middle)).streams j with
    | none =>
      have unbegun := (running_begun _ j).mp standing
      rw [turn_new standing]
      exact ⟨j, fun former => unbegun (List.mem_append_left _ former), rfl⟩
    | some a =>
      obtain ⟨_, d, turned, goes⟩ := turn_goes standing
      have same : d.label = (running renders c (first ++ i :: middle)).capture.label := by
        cases goes with
        | spent | failure | offer | finish => rfl
      rw [turned]
      exact ⟨k, later, same.trans labelled⟩

/-- Renders that complete and can be told apart: each has its own label and a final frame that no other has. -/
structure Distinct (renders : ι → Render K F) : Prop where
  completes : ∀ i, (renders i).frames ≠ none
  labels : Function.Injective fun i => (renders i).label
  finals : ∀ i j, i ≠ j → ∀ frames others final, (renders i).frames = some frames → frames.getLast? = some final →
    (renders j).frames = some others → final ∉ others

/-- A render that is over after some turns is so by one of them. -/
theorem over_within {schedule turns : List ι} {j : ι} (before : ¬ Over (running renders c schedule) j)
    (after : Over (running renders c (schedule ++ turns)) j) :
    ∃ more rest, turns = more ++ j :: rest ∧ ¬ Over (running renders c (schedule ++ more)) j ∧
      Over (running renders c (schedule ++ more ++ [j])) j := by
  induction turns generalizing schedule with
  | nil => exact absurd (List.append_nil schedule ▸ after) before
  | cons i rest ih =>
    by_cases now : Over (running renders c (schedule ++ [i])) j
    -- Nobody else's turn ends a stream.
    · have same : j = i := by
        by_contra other
        obtain ⟨a, standing, closed⟩ := now
        rw [running_snoc, turn_other _ other] at standing
        exact before ⟨a, standing, closed⟩
      subst same
      exact ⟨[], rest, rfl, by rwa [List.append_nil], by rwa [List.append_nil]⟩
    · have later : Over (running renders c (schedule ++ [i] ++ rest)) j := by rwa [List.append_assoc]
      obtain ⟨more, rest, rfl, opened, spent⟩ := ih now later
      have assoc : schedule ++ [i] ++ more = schedule ++ i :: more := by simp
      rw [assoc] at opened spent
      exact ⟨i :: more, rest, rfl, opened, spent⟩

/-- An overtaken stream ends by finishing the capture of a later render with its own final frame. -/
theorem overtaken_misshown (distinct : Distinct renders) {first middle : List ι} {i j : ι} (new : i ∉ first) (former : j ∈ first)
    (opened : ¬ Over (running renders c (first ++ i :: middle)) j)
    (spent : Over (running renders c (first ++ i :: middle ++ [j])) j) :
    ∃ snapshot, (running renders c (first ++ i :: middle ++ [j])).capture.snapshot = some snapshot ∧
      ∀ k, ¬ Shows (renders k) snapshot := by
  obtain ⟨later, unbegun, labelled⟩ : ∃ k, k ∉ first ∧
      (running renders c (first ++ i :: middle)).capture.label = some (renders k).label := running_labelled first new middle
  cases standing : (running renders c (first ++ i :: middle)).streams j with
  | none => exact absurd (List.mem_append_left _ former) ((running_begun _ j).mp standing)
  | some a =>
    obtain ⟨given, ahead⟩ := running_ahead standing
    obtain ⟨b, d, turned, goes⟩ := turn_goes standing
    rw [running_snoc, turned] at spent ⊢
    obtain ⟨last, lastStanding, lastClosed⟩ := spent
    cases (Function.update_self ..).symm.trans lastStanding
    -- The stream was open and is over now, and it does not fail: the turn was that of its final frame.
    cases goes with
    | spent closed => exact absurd ⟨a, standing, closed⟩ opened
    | failure stood _ fails =>
      have failed := ahead stood
      rw [fails] at failed
      exact absurd failed (distinct.completes j)
    | offer _ still =>
      rw [still] at lastClosed
      cases lastClosed
    | @finish _ f stood _ final =>
      have whole : (renders j).frames = some (given ++ [f]) := by
        rw [ahead stood, final]
        rfl
      refine ⟨_, if_pos rfl, fun k shows => ?_⟩
      have same : k = later := distinct.labels (Option.some.inj (shows.labelled.symm.trans labelled))
      subst same
      have other : j ≠ k := fun same => unbegun (same ▸ former)
      obtain ⟨others, complete, held, _⟩ := shows.frames
      refine distinct.finals j k other _ others f whole List.getLast?_concat complete (held f ?_)
      simp [Capture.finish]

theorem shows_orderly (distinct : Distinct renders) {schedule : List ι}
    (spent : ∀ i ∈ schedule, Over (running renders c schedule) i)
    (right : ∀ earlier snapshot, earlier <+: schedule → (running renders c earlier).capture.snapshot = some snapshot →
      ∃ i, Shows (renders i) snapshot) : Orderly renders c schedule := by
  rintro first i middle j rest rfl new former
  by_contra opened
  have ended := spent j (List.mem_append_left _ (List.mem_append_left _ former))
  obtain ⟨between, remaining, split, still, ends⟩ := over_within opened ended
  have assoc : first ++ i :: middle ++ between = first ++ i :: (middle ++ between) := by simp
  rw [assoc] at still ends
  obtain ⟨snapshot, read, wrong⟩ := overtaken_misshown distinct new former still ends
  have earlier : first ++ i :: (middle ++ between) ++ [j] <+: first ++ i :: middle ++ j :: rest :=
    ⟨remaining, by rw [split]; simp⟩
  obtain ⟨k, shows⟩ := right _ snapshot earlier read
  exact wrong k shows

/-! ### Main statements -/

/-- As long as no stream goes on after another render has begun, every snapshot of the capture that they
    share shows the render that it names. Where renders complete and can be told apart, all snapshots show
    them only then. -/
theorem snapshots_in_order {every : Int} {c : Capture F} (created : Capture.create every = .ok c) (renders : ι → Render K F)
    (schedule : List ι) :
    (Orderly renders c schedule → ∀ snapshot, (running renders c schedule).capture.snapshot = some snapshot →
      ∃ i ∈ schedule, Shows (renders i) snapshot) ∧
    (Distinct renders → (∀ i ∈ schedule, Over (running renders c schedule) i) →
      (∀ earlier snapshot, earlier <+: schedule → (running renders c earlier).capture.snapshot = some snapshot →
        ∃ i, Shows (renders i) snapshot) → Orderly renders c schedule) := by
  have fresh : c.finished = false := by
    rw [Capture.create] at created
    split at created
    · cases created
    · cases created
      rfl
  exact ⟨fun orderly _ => orderly_shows fresh orderly, fun distinct => shows_orderly distinct⟩

end

/-! ### Two renders -/

/-- Two renders of one step, whose frames are numbers below ten and from ten on. -/
def dots (second : Bool) : Render Float Nat where
  label := .bool second
  frame := ⟨4, 4⟩
  background := ⟨0, 0, 0⟩
  steps := [{ StepRecord.empty with type := some (Text.ofString "dot"), colour := some (Text.ofString "black") }]
  encoder encoded _ := some (if second then 10 + encoded else encoded)

/-- A capture that keeps every frame. -/
def keepsAll : Capture Nat := { every := 1, label := none, frames := #[], offered := 0, finished := false }

/-- The second of two renders is shown whole when the first has no turn after it began. -/
theorem abandoned_in_order :
    Capture.create 1 = .ok keepsAll ∧ ∃ i ∈ [false, true, true, true], Shows (dots i) ⟨some (.bool true), [10, 11], 1⟩ := by
  have created : Capture.create 1 = .ok keepsAll := rfl
  have orderly : Orderly dots keepsAll [false, true, true, true] := by
    intro first i middle j rest split new former
    cases first with
    | nil => exact absurd former List.not_mem_nil
    | cons begun first =>
      obtain ⟨rfl, later⟩ := List.cons.inj split
      have second (k : Bool) (member : k ∈ first ++ i :: middle ++ j :: rest) : k = true := by
        have listed : k ∈ [true, true, true] := later ▸ member
        simpa using listed
      have last : i = true := second i (by simp)
      have same : j = true := second j (by simp)
      subst last same
      exact absurd former new
  exact ⟨created, (snapshots_in_order created dots _).1 orderly _ rfl⟩

theorem dots_frames (second : Bool) : (dots second).frames = some (if second then [10, 11] else [0, 1]) := by
  cases second with
  | false => rfl
  | true => rfl

theorem dots_distinct : Distinct dots where
  completes i none := by
    rw [dots_frames] at none
    cases none
  labels i j same := Value.bool.inj same
  finals i j other frames others final mine last theirs := by
    rw [dots_frames] at mine theirs
    cases mine
    cases theirs
    revert i j final
    decide

/-- A render that was overtaken ends in the capture of the one that overtook it. -/
theorem overtaken_snapshot :
    ¬ ∀ (renders : Bool → Render Float Nat) (c : Capture Nat) (schedule : List Bool), Capture.create 1 = .ok c →
      Distinct renders → (∀ i ∈ schedule, Over (running renders c schedule) i) →
      ∀ snapshot, (running renders c schedule).capture.snapshot = some snapshot → ∃ i, Shows (renders i) snapshot := by
  intro claimed
  have spent : ∀ i ∈ [false, false, true, true, true, false],
      Over (running dots keepsAll [false, false, true, true, true, false]) i := by
    intro i _
    cases i with
    | false => exact ⟨_, rfl, rfl⟩
    | true => exact ⟨_, rfl, rfl⟩
  obtain ⟨i, shows⟩ := claimed dots keepsAll _ rfl dots_distinct spent ⟨some (.bool true), [10, 11, 1], 1⟩ rfl
  have second : true = i := Value.bool.inj (Option.some.inj shows.labelled)
  subst second
  obtain ⟨frames, complete, held, _⟩ := shows.frames
  rw [dots_frames] at complete
  cases complete
  exact absurd (held 1 (by decide)) (by decide)

end Lindenmayer.Streaming
