import Lindenmayer.Proofs.Starting

/-!
Branches. A bracket that opens keeps the turtle's place, and no other command touches what lies on the stack
(`obey_stack`). Brackets that match leave the stack as it was, whatever lies on it (`walk_balanced`), so the bracket
that closes a branch brings the turtle back to the place where the branch began, and nothing else (`branch_left`).
-/
namespace Lindenmayer.Branching
open Outcomes Writing Sketching Passes Starting

def opens : Symbol := .ofChar '['

def closes : Symbol := .ofChar ']'

/-- Whether the brackets match, where some are open already: each that closes has one to close, and none stays open. -/
def balanced : (depth : Nat) → Sequence → Bool
  | depth, [] => depth == 0
  | depth, s :: rest =>
    if s = opens then balanced (depth + 1) rest
    else if s = closes then depth != 0 && balanced (depth - 1) rest
    else balanced depth rest

theorem symbol_push {s : Symbol} : Command.ofSymbol? s = some .push ↔ s = opens := by
  constructor
  · exact Command.ofSymbol?_letter fun c => by fun_cases Command.ofChar? c <;> simp
  · rintro rfl
    rfl

theorem symbol_pop {s : Symbol} : Command.ofSymbol? s = some .pop ↔ s = closes := by
  constructor
  · exact Command.ofSymbol?_letter fun c => by fun_cases Command.ofChar? c <;> simp
  · rintro rfl
    rfl

variable {K : Type} [Scalar K]

/-! ### The stack -/

/-- The place that a turtle remembers when it pushes. -/
def place (t : Turtle K) : Place K := ⟨t.x, t.y, t.heading, t.writes⟩

/-- A hook that leaves the stack as it finds it. -/
def LeavesStack (hook : Hook K) : Prop :=
  ∀ calls t after, Action.run t (hook calls t) = .ok after → after.stack = t.stack

/-- Whether an action changes the stack. -/
def touchesStack : Action K → Bool
  | .push | .pop => true
  | _ => false

theorem advance_stack {t after : Turtle K} {distance : K} (advanced : t.advance distance = .ok after) : after.stack = t.stack := by
  rw [advance_ok advanced]
  rfl

theorem run_stack {t after : Turtle K} {actions : List (Action K)} (none_ : ∀ action ∈ actions, touchesStack action = false)
    (done : Action.run t actions = .ok after) : after.stack = t.stack := by
  induction actions generalizing t with
  | nil =>
    cases done
    rfl
  | cons action rest ih =>
    obtain ⟨middle, performed, done⟩ := bind_ok.mp done
    obtain ⟨first, later⟩ := List.forall_mem_cons.mp none_
    rw [ih later done]
    cases action with
    | push | pop => cases first
    | advance distance => exact advance_stack performed
    | set field value =>
      cases performed
      cases field <;> rfl
    | setPen | turn =>
      cases performed
      rfl

/-- A hook with no action that changes the stack. -/
theorem leavesStack_of_actions {hook : Hook K} (none_ : ∀ calls t, ∀ action ∈ hook calls t, touchesStack action = false) :
    LeavesStack hook :=
  fun calls t _ done => run_stack (none_ calls t) done

theorem move_stack {r next : Run K} {distance : K} (moved : r.move distance = .ok next) : next.turtle.stack = r.turtle.stack := by
  obtain ⟨t, advanced, rfl⟩ := move_ok moved
  exact advance_stack advanced

/-- What lies on the stack after a command. -/
def stackAfter (t : Turtle K) : Command → List (Place K)
  | .push => place t :: t.stack
  | .pop => t.stack.tail
  | _ => t.stack

theorem obey_stack {hook : Option (Hook K)} (leaves : ∀ h, hook = some h → LeavesStack h) {r next : Run K} {command : Command}
    (obeyed : r.obey hook command = .ok next) : next.turtle.stack = stackAfter r.turtle command := by
  cases command with
  | forward | halfForward => exact move_stack obeyed
  | backward =>
    obtain ⟨middle, moved, rfl⟩ := backward_ok obeyed
    have same := move_stack moved
    exact same
  | halfBackward => exact move_stack (r := r.turn (Scalar.ofInt 180)) obeyed
  | pop =>
    cases standing : r.turtle.stack with
    | nil =>
      simp only [Run.obey, Turtle.pop?, standing] at obeyed
      cases obeyed
      rw [stackAfter, standing]
      rfl
    | cons below rest =>
      simp only [Run.obey, Turtle.pop?, standing] at obeyed
      cases obeyed
      rw [stackAfter, standing]
      rfl
  | asterisk =>
    cases hook with
    | none =>
      cases obeyed
      rfl
    | some hook =>
      obtain ⟨t, done, rfl⟩ := callHook_ok obeyed
      exact leaves hook rfl r.calls r.turtle t done
  | _ =>
    cases obeyed
    rfl

/-- A sequence whose brackets match takes those from the stack that were open before it, and leaves what is below. -/
theorem walk_balanced {hook : Option (Hook K)} (leaves : ∀ h, hook = some h → LeavesStack h) {s : Sequence} {r last : Run K}
    {open_ below : List (Place K)} (matching : balanced open_.length s = true) (stack : r.turtle.stack = open_ ++ below)
    (walked : r.walk hook s = .ok last) : last.turtle.stack = below := by
  induction s generalizing r open_ with
  | nil =>
    cases walked
    have none_ : open_ = [] := by simpa [balanced] using matching
    rw [stack, none_, List.nil_append]
  | cons s rest ih =>
    obtain ⟨next, read, walked⟩ := walk_cons walked
    rw [balanced] at matching
    by_cases opening_ : s = opens
    · rw [if_pos opening_] at matching
      rw [Run.read, symbol_push.mpr opening_] at read
      have matchingNext : balanced (place r.turtle :: open_).length rest = true := matching
      refine ih matchingNext ?_ walked
      rw [obey_stack leaves read, stackAfter, stack, List.cons_append]
    rw [if_neg opening_] at matching
    by_cases closing : s = closes
    · rw [if_pos closing] at matching
      rw [Run.read, symbol_pop.mpr closing] at read
      obtain ⟨some_, matching⟩ := Bool.and_eq_true_iff.mp matching
      cases open_ with
      | nil => cases some_
      | cons top others =>
        have matchingNext : balanced others.length rest = true := matching
        refine ih matchingNext ?_ walked
        rw [obey_stack leaves read, stackAfter, stack, List.cons_append, List.tail_cons]
    · rw [if_neg closing] at matching
      refine ih matching ?_ walked
      rcases read_ok read with ⟨-, rfl⟩ | ⟨command, ordered, obeyed⟩
      · exact stack
      · rw [obey_stack leaves obeyed]
        cases command with
        | push => exact absurd (symbol_push.mp ordered) opening_
        | pop => exact absurd (symbol_pop.mp ordered) closing
        | _ => exact stack

/-! ### Branches -/

/-- The turtle with the place and the stack of another one. -/
def backTo (origin t : Turtle K) : Turtle K :=
  { t with x := origin.x, y := origin.y, heading := origin.heading, writes := origin.writes, stack := origin.stack }

/-- A branch in brackets is walked as what is inside of it, and then the turtle is put back. -/
theorem walk_branch {hook : Option (Hook K)} (leaves : ∀ h, hook = some h → LeavesStack h) {branch : Sequence}
    (matching : balanced 0 branch = true) {r last : Run K} (walked : r.walk hook (opens :: branch ++ [closes]) = .ok last) :
    ∃ inside, r.walk hook (opens :: branch) = .ok inside ∧ last = { inside with
      turtle := backTo r.turtle inside.turtle, emitted := inside.emitted.push (.moveTo r.turtle.x r.turtle.y) } := by
  obtain ⟨inside, entered, left⟩ := walk_append walked
  refine ⟨inside, entered, ?_⟩
  obtain ⟨pushed, read, within⟩ := walk_cons entered
  obtain ⟨back, popped, done⟩ := walk_cons left
  cases done
  rw [Run.read, symbol_push.mpr rfl] at read
  rw [Run.read, symbol_pop.mpr rfl] at popped
  have below : inside.turtle.stack = place r.turtle :: r.turtle.stack := by
    have none_ : balanced ([] : List (Place K)).length branch = true := matching
    exact walk_balanced leaves none_ (obey_stack leaves read) within
  simp only [Run.obey, Turtle.pop?, below] at popped
  cases popped
  rfl

/-- A pass that has left a branch, from the passes that come to it and to its end. -/
structure Left (outside inside back : Pass K) : Prop where
  turtle : back.turtle = backTo outside.turtle inside.turtle
  emitted : back.emitted = inside.emitted.push (.moveTo outside.turtle.x outside.turtle.y)

/-- Where nothing but brackets touches the stack, a pass that has read a branch finds the turtle's place and stack
    just as they were before it, and the rest of the turtle as the branch left it. The pen is moved to the place. -/
theorem branch_left {o : Start K} (leaves : ∀ h, o.hook = some h → LeavesStack h) {before branch : Sequence} {n : Nat}
    (matching : balanced 0 branch = true)
    (completes : (o.pass (.ok (before ++ opens :: branch ++ [closes]))).count = .ok n) :
    let outside := o.pass (.ok before)
    let inside := o.pass (.ok (before ++ opens :: branch))
    let back := o.pass (.ok (before ++ opens :: branch ++ [closes]))
    outside.count = .ok before.length ∧ inside.count = .ok (before ++ opens :: branch).length ∧ Left outside inside back ∧
      -- what follows the branch is walked from there
      ∃ r, back = .ofRun r (.ok n) ∧ ∀ rest, o.pass (.ok (before ++ opens :: branch ++ closes :: rest)) =
        passOf (before ++ opens :: branch ++ closes :: rest).length (r.walk o.hook rest) := by
  intro outside inside back
  obtain ⟨first, begun⟩ := completes_begins (by simp) completes
  obtain ⟨last, walked⟩ := completes_walks begun completes
  have reaches := walk_reaches begun walked
  have whole : back = .ofRun last (.ok n) := by
    have walk : back = passOf _ (first.walk o.hook _) := pass_walk begun (by simp)
    rw [walked] at walk
    have counted : back.count = .ok n := completes
    rw [walk] at counted ⊢
    cases counted
    rfl
  have onward (rest : Sequence) := pass_onward begun walked rest (by simp)
  rw [List.append_assoc] at walked
  obtain ⟨start, arrived, walked⟩ := walk_append walked
  obtain ⟨end_, within, rfl⟩ := walk_branch leaves matching walked
  have entered : first.walk o.hook (before ++ opens :: branch) = .ok end_ := by
    rw [walk_joined, arrived]
    exact within
  have reachesOutside := walk_reaches begun arrived
  have reachesInside := walk_reaches begun entered
  refine ⟨reachesOutside.count, reachesInside.count, ⟨?_, ?_⟩, _, whole, fun rest => ?_⟩
  · rw [reaches.turtle, reachesOutside.turtle, reachesInside.turtle]
  · rw [reaches.emitted (by simp), reachesInside.emitted (by simp), reachesOutside.turtle]
  · have same : before ++ opens :: branch ++ closes :: rest = before ++ opens :: branch ++ [closes] ++ rest := by simp
    rw [same]
    exact onward rest

/-- A hook that turns the turtle and takes another pen, lifted from the second call on. -/
def turning : Hook Float := fun calls _ => [.turn 30.0, .set .hue 120.0, .setPen (calls = 0)]

/-- A branch within a branch, with the hook called in both, over a place on the stack that neither comes back to. -/
theorem nested_branch_left :
    let start : Turtle Float := Turtle.initial.withStack [{ x := 1.0, y := 2.0, heading := 3.0 }]
    let o : Start Float := ⟨some turning, 0, .seed .null, start, .real 10.0, .real 90.0⟩
    let branch : Sequence := [42, 91, 43, 42, 70, 93, 116, 53]
    LeavesStack turning ∧ balanced 0 branch = true ∧ (o.pass (.ok ([70] ++ opens :: branch ++ [closes]))).count = .ok 11 ∧
      Left (o.pass (.ok [70])) (o.pass (.ok ([70] ++ opens :: branch))) (o.pass (.ok ([70] ++ opens :: branch ++ [closes]))) := by
  intro start o branch
  have leaves : LeavesStack turning := leavesStack_of_actions fun calls t action member => by
    simp only [turning, List.mem_cons, List.not_mem_nil, or_false] at member
    rcases member with rfl | rfl | rfl <;> rfl
  have only (h : Hook Float) (same : o.hook = some h) : LeavesStack h := Option.some_inj.mp same ▸ leaves
  have matching : balanced 0 branch = true := rfl
  have counted : (o.pass (.ok ([70] ++ opens :: branch ++ [closes]))).count = .ok 11 := toOption_ok.mp (by decide +kernel)
  exact ⟨leaves, matching, counted, (branch_left only matching counted).2.2.1⟩

end Lindenmayer.Branching
