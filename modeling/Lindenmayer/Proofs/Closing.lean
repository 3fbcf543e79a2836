import Lindenmayer.Capture
import Mathlib.Data.List.Infix

/-!
Captures that have been finished. A snapshot is read of the capture as it is, and offering and finishing write
into it whether it is finished or not. So what finishing closes is shown again and again until the capture is begun
anew as long as nothing is offered or finished, and only so long (`closed_until_written`); a second final frame
stands behind the first (`finished_twice`).
-/
namespace Lindenmayer.Closing

/-- What is done with a capture. -/
inductive Operation (F : Type) where
  | begin (label : Value)
  | offer (frame : F)
  | finish (frame : F)
  | snapshot

namespace Operation

variable {F : Type}

def begins : Operation F → Bool
  | .begin _ => true
  | _ => false

/-- Whether an operation hands a frame to the capture. -/
def writes : Operation F → Bool
  | .offer _ | .finish _ => true
  | _ => false

def offers : Operation F → Bool
  | .offer _ => true
  | _ => false

end Operation

section
variable {F : Type}

/-- A capture after an operation. A label that stands for no object begins nothing. -/
def perform (c : Capture F) : Operation F → Capture F
  | .begin label =>
    match c.start label with
    | .ok begun => begun
    | .error _ => c
  | .offer frame => (c.offer frame).1
  | .finish frame => c.finish frame
  | .snapshot => c

def performAll (c : Capture F) (ops : List (Operation F)) : Capture F := ops.foldl perform c

/-- The snapshots that are read among operations, in their order. -/
def reads (c : Capture F) : List (Operation F) → List (Option (Snapshot F))
  | [] => []
  | .snapshot :: rest => c.snapshot :: reads c rest
  | op :: rest => reads (perform c op) rest

/-- The frames that operations add to a capture which was offered so many before, if none begins it. -/
def added (every : Nat) : (offered : Nat) → List (Operation F) → List F
  | _, [] => []
  | offered, .offer frame :: rest => (if offered % every = 0 then [frame] else []) ++ added every (offered + 1) rest
  | offered, .finish frame :: rest => frame :: added every offered rest
  | offered, _ :: rest => added every offered rest

/-- No frame is handed over before a snapshot is read. -/
def Untouched (ops : List (Operation F)) : Prop :=
  ∀ earlier rest, ops = earlier ++ .snapshot :: rest → ∀ op ∈ earlier, op.writes = false

/-- What a capture shows when it is finished. -/
def shown (c : Capture F) : Snapshot F := ⟨c.label, c.frames.toList, c.offered⟩

theorem performAll_append (c : Capture F) (before after : List (Operation F)) :
    performAll c (before ++ after) = performAll (performAll c before) after := List.foldl_append ..

theorem snapshot_shown {c : Capture F} (finished : c.finished = true) : c.snapshot = some (shown c) := if_pos finished

theorem perform_every (c : Capture F) (op : Operation F) : (perform c op).every = c.every := by
  cases op with
  | begin label =>
    rw [perform, Capture.start]
    cases label.counts with
    | error failure => rfl
    | ok given =>
      cases given with
      | false => rfl
      | true =>
        cases label.toObject with
        | error failure => rfl
        | ok object => rfl
  | offer | finish | snapshot => rfl

theorem performAll_every (c : Capture F) (ops : List (Operation F)) : (performAll c ops).every = c.every := by
  induction ops generalizing c with
  | nil => rfl
  | cons op rest ih => exact (ih (perform c op)).trans (perform_every c op)

/-! ### Closed captures -/

/-- What an operation does to a finished capture unless it begins it: it stays finished, and a frame that is handed
    over is written behind those that it holds. -/
theorem perform_finished {c : Capture F} (finished : c.finished = true) {op : Operation F} (unbegun : op.begins = false) :
    (perform c op).finished = true ∧ shown (perform c op) =
      ⟨c.label, c.frames.toList ++ added c.every c.offered [op], c.offered + [op].countP Operation.offers⟩ := by
  cases op with
  | begin label => cases unbegun
  | offer frame =>
    refine ⟨finished, ?_⟩
    by_cases kept : c.offered % c.every = 0
    · simp [perform, shown, Capture.offer, Capture.keepsNext, added, Operation.offers, kept]
    · simp [perform, shown, Capture.offer, Capture.keepsNext, added, Operation.offers, kept]
  | finish frame => exact ⟨rfl, by simp [perform, shown, Capture.finish, added, Operation.offers]⟩
  | snapshot => exact ⟨finished, by simp [perform, shown, added, Operation.offers]⟩

theorem added_cons (every offered : Nat) (op : Operation F) (rest : List (Operation F)) :
    added every offered (op :: rest) = added every offered [op] ++ added every (offered + [op].countP Operation.offers) rest := by
  cases op with
  | begin | offer | finish | snapshot => simp [added, Operation.offers]

/-- A finished capture after operations none of which begins it. -/
theorem performAll_finished {c : Capture F} (finished : c.finished = true) {ops : List (Operation F)}
    (unbegun : ∀ op ∈ ops, op.begins = false) : (performAll c ops).snapshot =
      some ⟨c.label, c.frames.toList ++ added c.every c.offered ops, c.offered + ops.countP Operation.offers⟩ := by
  induction ops generalizing c with
  | nil =>
    rw [performAll, List.foldl_nil, snapshot_shown finished]
    simp [shown, added]
  | cons op rest ih =>
    obtain ⟨still, next⟩ := perform_finished finished (unbegun op List.mem_cons_self)
    obtain ⟨label, frames, offered⟩ := Snapshot.mk.inj next
    have counted : ([op] ++ rest).countP Operation.offers = [op].countP Operation.offers + rest.countP Operation.offers :=
      List.countP_append
    rw [List.singleton_append] at counted
    rw [performAll, List.foldl_cons, ← performAll, ih still fun other member => unbegun other (List.mem_cons_of_mem _ member),
      perform_every, label, frames, offered, added_cons _ _ op rest, counted, List.append_assoc, Nat.add_assoc]

theorem added_nil {every offered : Nat} {ops : List (Operation F)} (unwritten : ∀ op ∈ ops, op.writes = false) :
    added every offered ops = [] := by
  induction ops with
  | nil => rfl
  | cons op rest ih =>
    have rest_unwritten := ih fun other member => unwritten other (List.mem_cons_of_mem _ member)
    cases op with
    | begin label => exact rest_unwritten
    | snapshot => exact rest_unwritten
    | offer | finish => cases unwritten _ List.mem_cons_self

theorem finish_added {every offered : Nat} {ops : List (Operation F)} {frame : F} (member : .finish frame ∈ ops) :
    frame ∈ added every offered ops := by
  induction ops generalizing offered with
  | nil => cases member
  | cons op rest ih =>
    rw [added_cons, List.mem_append]
    rcases List.mem_cons.mp member with rfl | later
    · exact .inl List.mem_cons_self
    · exact .inr (ih later)

/-- A finished capture shows what it showed before just if no operation has written into it. -/
theorem performAll_same {c : Capture F} (finished : c.finished = true) {ops : List (Operation F)}
    (unbegun : ∀ op ∈ ops, op.begins = false) :
    (performAll c ops).snapshot = some (shown c) ↔ ∀ op ∈ ops, op.writes = false := by
  rw [performAll_finished finished unbegun, shown, Option.some_inj, Snapshot.mk.injEq]
  constructor
  · rintro ⟨-, frames, offered⟩ op member
    cases op with
    | begin | snapshot => rfl
    | offer frame =>
      have none_offered : ops.countP Operation.offers = 0 := by omega
      exact absurd rfl (List.countP_eq_zero.mp none_offered _ member)
    | finish frame =>
      have none_added : added c.every c.offered ops = [] := by simpa using frames
      exact absurd (finish_added member) (none_added ▸ List.not_mem_nil)
  · intro unwritten
    have none_offered : ops.countP Operation.offers = 0 := by
      refine List.countP_eq_zero.mpr fun op member offered => ?_
      have kept := unwritten op member
      cases op with
      | offer => cases kept
      | begin | finish | snapshot => cases offered
    rw [added_nil unwritten, none_offered, List.append_nil]
    exact ⟨rfl, rfl, rfl⟩

theorem reads_mem {c : Capture F} {ops : List (Operation F)} {read : Option (Snapshot F)} :
    read ∈ reads c ops ↔ ∃ earlier rest, ops = earlier ++ .snapshot :: rest ∧ read = (performAll c earlier).snapshot := by
  induction ops generalizing c with
  | nil => simp [reads]
  | cons op ops ih =>
    have first : (∃ earlier rest, op :: ops = earlier ++ .snapshot :: rest ∧ read = (performAll c earlier).snapshot) ↔
        (op = .snapshot ∧ read = c.snapshot) ∨ read ∈ reads (perform c op) ops := by
      rw [ih]
      constructor
      · rintro ⟨earlier, rest, split, same⟩
        rcases List.cons_eq_append_iff.mp split with ⟨rfl, here⟩ | ⟨between, rfl, later⟩
        · exact .inl ⟨(List.cons.inj here).1.symm, same⟩
        · exact .inr ⟨between, rest, later, same⟩
      · rintro (⟨rfl, same⟩ | ⟨between, rest, rfl, same⟩)
        · exact ⟨[], ops, rfl, same⟩
        · exact ⟨op :: between, rest, rfl, same⟩
    rw [first]
    cases op with
    | snapshot => simp [reads, perform]
    | begin | offer | finish => simp [reads]

/-! ### Main statements -/

/-- Whatever was done with a capture before, the frame that finishes it is the last that it shows. As long as it is
    not begun anew, every frame that is offered or finished later is written behind those that it showed when it was
    closed; so the snapshots that are read are the one of its closing just if nothing was handed over before them. -/
theorem closed_until_written (c : Capture F) (before later : List (Operation F)) (final : F)
    (unbegun : ∀ op ∈ later, op.begins = false) :
    ∃ closing : Snapshot F, (performAll c (before ++ [.finish final])).snapshot = some closing ∧
      closing.frames.getLast? = some final ∧
      (∀ earlier, earlier <+: later → (performAll c (before ++ .finish final :: earlier)).snapshot =
        some ⟨closing.label, closing.frames ++ added c.every closing.offered earlier,
          closing.offered + earlier.countP Operation.offers⟩) ∧
      ((∀ read ∈ reads (performAll c (before ++ [.finish final])) later, read = some closing) ↔ Untouched later) := by
  have finished : ((performAll c before).finish final).finished = true := rfl
  have closed : performAll c (before ++ [.finish final]) = (performAll c before).finish final := performAll_append ..
  have every : ((performAll c before).finish final).every = c.every := performAll_every c before
  have within {earlier : List (Operation F)} (first : earlier <+: later) (op) (member : op ∈ earlier) : op.begins = false :=
    unbegun op (first.subset member)
  refine ⟨shown ((performAll c before).finish final), ?_, ?_, fun earlier first => ?_, ?_⟩
  · rw [closed, snapshot_shown finished]
  · simp [shown, Capture.finish]
  · have split : performAll c (before ++ .finish final :: earlier) = performAll ((performAll c before).finish final) earlier :=
      performAll_append ..
    rw [split, performAll_finished finished (within first), every]
    rfl
  · rw [closed]
    constructor
    · rintro same earlier rest rfl
      refine (performAll_same finished (within (List.prefix_append ..))).mp ?_
      exact same _ (reads_mem.mpr ⟨earlier, rest, rfl, rfl⟩)
    · intro untouched read member
      obtain ⟨earlier, rest, rfl, rfl⟩ := reads_mem.mp member
      exact (performAll_same finished (within (List.prefix_append ..))).mpr (untouched earlier rest rfl)

end

/-- A capture of every other frame that was closed with two frames shows a third when two more are offered. -/
theorem late_frame_shown :
    let c : Capture Nat := { every := 2, label := none, frames := #[], offered := 0, finished := false }
    let closed := performAll c ([.begin .null, .offer 1] ++ [.finish 7])
    let later : List (Operation Nat) := [.snapshot, .offer 8, .offer 9, .snapshot]
    (∀ op ∈ later, op.begins = false) ∧ closed.snapshot = some ⟨none, [1, 7], 1⟩ ∧
      (performAll c ([.begin .null, .offer 1] ++ .finish 7 :: [.snapshot, .offer 8, .offer 9])).snapshot = some ⟨none, [1, 7, 9], 3⟩ ∧
      ¬ ∀ read ∈ reads closed later, read = some ⟨none, [1, 7], 1⟩ := by
  intro c closed later
  have unbegun : ∀ op ∈ later, op.begins = false := by decide
  have shown : closed.snapshot = some ⟨none, [1, 7], 1⟩ := rfl
  obtain ⟨closing, shows, _, written, same⟩ := closed_until_written c [.begin .null, .offer 1] later 7 unbegun
  obtain rfl : ⟨none, [1, 7], 1⟩ = closing := Option.some.inj (shown.symm.trans shows)
  have two := written [.snapshot, .offer 8, .offer 9] ⟨[.snapshot], rfl⟩
  refine ⟨unbegun, shown, by simpa [added, Operation.offers, List.countP_cons, c] using two, fun kept => ?_⟩
  have offered := same.mp kept [.snapshot, .offer 8, .offer 9] [] rfl (.offer 8) (by simp)
  cases offered

/-- A capture that is finished a second time before it is begun anew shows the second final frame as its last. -/
theorem finished_twice :
    ¬ ∀ {every : Int} {c : Capture Nat} (before later : List (Operation Nat)) (final : Nat), Capture.create every = .ok c →
      (∀ op ∈ later, op.begins = false) → ∀ read ∈ reads (performAll c (before ++ [.finish final])) later,
        read = (performAll c (before ++ [.finish final])).snapshot := by
  intro claimed
  let c : Capture Nat := { every := 1, label := none, frames := #[], offered := 0, finished := false }
  have created : Capture.create 1 = .ok c := rfl
  have same := claimed [.begin .null, .offer 1] [.finish 3, .snapshot] 2 created (by decide) (some ⟨none, [1, 2, 3], 1⟩)
    List.mem_cons_self
  have frames := congrArg Snapshot.frames (Option.some.inj same)
  exact absurd frames (by decide)

end Lindenmayer.Closing
