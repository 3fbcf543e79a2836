import Mathlib.Logic.Function.Basic
import Lindenmayer.Turtle.Render

/-!
The numbers of writes. A ledger says what each write of a coordinate wrote, and the coordinates of a
turtle and of the places on its stack are what their writes wrote (`Kept`). Whatever is done to a turtle,
its ledger is only added to (`Carries`), so coordinates that come from one write are one number, and a
place that does not count as moved has coordinates that are equal (`unmoved_like`).
-/
namespace Lindenmayer.Writing

variable {K : Type}

/-- The two coordinates that each write stands for, by its number. -/
abbrev Ledger (K : Type) := Nat → K × K

/-- Coordinates are what their writes wrote, and these are not to come. -/
structure Noted (ledger : Ledger K) (written : Nat) (x y : K) (writes : Writes) : Prop where
  first : x = (ledger writes.x).1
  second : y = (ledger writes.y).2
  firstPast : writes.x ≤ written
  secondPast : writes.y ≤ written

/-- The coordinates of a turtle and of its stack are noted. -/
structure Kept (ledger : Ledger K) (t : Turtle K) : Prop where
  place : Noted ledger t.written t.x t.y t.writes
  stack : ∀ p ∈ t.stack, Noted ledger t.written p.x p.y p.writes

/-- A turtle whose writes are told apart by their numbers. -/
def Written (t : Turtle K) : Prop := ∃ ledger, Kept ledger t

/-- Any ledger of the first turtle is continued by one of the second. -/
def Carries (t after : Turtle K) : Prop :=
  ∀ ledger, Kept ledger t → ∃ next, Kept next after ∧ t.written ≤ after.written ∧ ∀ i ≤ t.written, next i = ledger i

theorem Noted.carried {ledger next : Ledger K} {written later : Nat} {x y : K} {writes : Writes}
    (noted : Noted ledger written x y writes) (ordered : written ≤ later) (same : ∀ i ≤ written, next i = ledger i) :
    Noted next later x y writes where
  first := by rw [same _ noted.firstPast, noted.first]
  second := by rw [same _ noted.secondPast, noted.second]
  firstPast := Nat.le_trans noted.firstPast ordered
  secondPast := Nat.le_trans noted.secondPast ordered

theorem Carries.trans {t middle after : Turtle K} (first : Carries t middle) (second : Carries middle after) : Carries t after := by
  intro ledger kept
  obtain ⟨next, keptNext, orderedFirst, sameFirst⟩ := first ledger kept
  obtain ⟨last, keptLast, orderedSecond, sameSecond⟩ := second next keptNext
  refine ⟨last, keptLast, Nat.le_trans orderedFirst orderedSecond, fun i past => ?_⟩
  rw [sameSecond i (Nat.le_trans past orderedFirst), sameFirst i past]

theorem Carries.written {t after : Turtle K} (carries : Carries t after) (written : Written t) : Written after := by
  obtain ⟨ledger, kept⟩ := written
  obtain ⟨next, keptNext, _⟩ := carries ledger kept
  exact ⟨next, keptNext⟩

/-- Where neither a coordinate nor the stack is touched, the ledger stays. -/
theorem carries_untouched {t after : Turtle K} (x : after.x = t.x) (y : after.y = t.y) (writes : after.writes = t.writes)
    (stack : after.stack = t.stack) (written : after.written = t.written) : Carries t after := by
  intro ledger kept
  refine ⟨ledger, ⟨?_, ?_⟩, Nat.le_of_eq written.symm, fun _ _ => rfl⟩
  · rw [x, y, writes, written]
    exact kept.place
  · rw [stack, written]
    exact kept.stack

/-! ### What is done to turtles -/

theorem setX_carries (t : Turtle K) (x : K) : Carries t (t.setX x) := by
  intro ledger kept
  have same : ∀ i ≤ t.written, Function.update ledger (t.written + 1) (x, x) i = ledger i := by
    intro i past
    exact Function.update_of_ne (show i ≠ t.written + 1 by omega) _ _
  have former := kept.place.carried (Nat.le_succ _) same
  refine ⟨_, ⟨⟨?_, former.second, Nat.le_refl _, former.secondPast⟩, ?_⟩, Nat.le_succ _, same⟩
  · change x = (Function.update ledger (t.written + 1) (x, x) (t.written + 1)).1
    rw [Function.update_self]
  · exact fun p member => (kept.stack p member).carried (Nat.le_succ _) same

theorem setY_carries (t : Turtle K) (y : K) : Carries t (t.setY y) := by
  intro ledger kept
  have same : ∀ i ≤ t.written, Function.update ledger (t.written + 1) (y, y) i = ledger i := by
    intro i past
    exact Function.update_of_ne (show i ≠ t.written + 1 by omega) _ _
  have former := kept.place.carried (Nat.le_succ _) same
  refine ⟨_, ⟨⟨former.first, ?_, former.firstPast, Nat.le_refl _⟩, ?_⟩, Nat.le_succ _, same⟩
  · change y = (Function.update ledger (t.written + 1) (y, y) (t.written + 1)).2
    rw [Function.update_self]
  · exact fun p member => (kept.stack p member).carried (Nat.le_succ _) same

theorem push_carries (t : Turtle K) : Carries t t.push := by
  intro ledger kept
  refine ⟨ledger, ⟨kept.place, fun p member => ?_⟩, Nat.le_refl _, fun _ _ => rfl⟩
  rcases List.mem_cons.mp member with here | below
  · exact here ▸ kept.place
  · exact kept.stack p below

theorem pop_carries {t after : Turtle K} (popped : t.pop? = some after) : Carries t after := by
  intro ledger kept
  rw [Turtle.pop?] at popped
  cases standing : t.stack with
  | nil =>
    rw [standing] at popped
    cases popped
  | cons place rest =>
    rw [standing] at popped
    cases popped
    refine ⟨ledger, ⟨?_, fun p member => ?_⟩, Nat.le_refl _, fun _ _ => rfl⟩
    · exact kept.stack place (standing ▸ List.mem_cons_self)
    · exact kept.stack p (standing ▸ List.mem_cons_of_mem _ member)

theorem set_carries (t : Turtle K) (field : Turtle.Field) (value : K) : Carries t (t.set field value) := by
  cases field with
  | x => exact setX_carries t value
  | y => exact setY_carries t value
  | _ => exact carries_untouched rfl rfl rfl rfl rfl

/-- Places that are put on a stack get coordinates of their own. -/
theorem withStack_carries (t : Turtle K) (places : List (Place K)) : Carries t (t.withStack places) := by
  intro ledger kept
  let next : Ledger K := fun i =>
    if i ≤ t.written then ledger i else (places[i - (t.written + 1)]?.map fun p => (p.x, p.y)).getD (t.x, t.y)
  have same : ∀ i ≤ t.written, next i = ledger i := fun i past => if_pos past
  refine ⟨next, ⟨kept.place.carried (Nat.le_add_right _ _) same, fun p member => ?_⟩, Nat.le_add_right _ _, same⟩
  obtain ⟨⟨place, i⟩, numbered, rfl⟩ := List.mem_map.mp (List.mem_reverse.mp member)
  obtain ⟨later, standing⟩ := List.mk_mem_zipIdx_iff_le_and_getElem?_sub.mp numbered
  have inside := (List.getElem?_eq_some_iff.mp standing).1
  have noted : next i = (place.x, place.y) := by
    have past : ¬ i ≤ t.written := by omega
    simp only [next, if_neg past, standing, Option.map_some, Option.getD_some]
  have inRange : i ≤ (t.withStack places).written := by
    change i ≤ t.written + places.length
    omega
  exact ⟨(congrArg Prod.fst noted).symm, (congrArg Prod.snd noted).symm, inRange, inRange⟩

/-- A turtle that comes from outside, with places on its stack. -/
theorem fresh_written {t : Turtle K} (writes : t.writes = ⟨0, 0⟩) (stack : t.stack = []) (places : List (Place K)) :
    Written (t.withStack places) := by
  refine (withStack_carries t places).written ⟨fun _ => (t.x, t.y), ⟨rfl, rfl, ?_, ?_⟩, ?_⟩
  · rw [writes]
    exact Nat.zero_le _
  · rw [writes]
    exact Nat.zero_le _
  · rw [stack]
    intro p member
    cases member

variable [Scalar K]

/-- Going on writes both coordinates, and nothing else. -/
theorem advance_ok {t after : Turtle K} {distance : K} (advanced : t.advance distance = .ok after) :
    after = (t.setX after.x).setY after.y := by
  rw [Turtle.advance] at advanced
  cases turned : Scalar.cosDegrees t.heading with
  | error failure =>
    rw [turned] at advanced
    cases advanced
  | ok cosine =>
    rw [turned] at advanced
    cases raised : Scalar.sinDegrees t.heading with
    | error failure =>
      rw [raised] at advanced
      cases advanced
    | ok sine =>
      rw [raised] at advanced
      cases advanced
      rfl

theorem advance_carries {t after : Turtle K} {distance : K} (advanced : t.advance distance = .ok after) : Carries t after := by
  rw [advance_ok advanced]
  exact (setX_carries t _).trans (setY_carries _ _)

theorem perform_carries {t after : Turtle K} {action : Action K} (performed : action.perform t = .ok after) : Carries t after := by
  cases action with
  | set field value =>
    cases performed
    exact set_carries t field value
  | advance distance => exact advance_carries performed
  | push =>
    cases performed
    exact push_carries t
  | pop =>
    cases performed
    cases popped : t.pop? with
    | none => exact carries_untouched rfl rfl rfl rfl rfl
    | some place => exact pop_carries popped
  | setPen | turn =>
    cases performed
    exact carries_untouched rfl rfl rfl rfl rfl

theorem run_carries {t after : Turtle K} {actions : List (Action K)} (done : Action.run t actions = .ok after) : Carries t after := by
  induction actions generalizing t with
  | nil =>
    cases done
    exact carries_untouched rfl rfl rfl rfl rfl
  | cons action rest ih =>
    rw [Action.run] at done
    cases performed : action.perform t with
    | error failure =>
      rw [performed] at done
      cases done
    | ok middle =>
      rw [performed] at done
      exact (perform_carries performed).trans (ih done)

end Lindenmayer.Writing
