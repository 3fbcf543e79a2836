import Mathlib.Data.List.Forall2

/-!
Computations that may fail. A chain of them succeeds just if each link does (`bind_ok`) and fails with the first
link that does (`bind_error`, `mapM_error`), which takes the steps of a program apart without unfolding what a step
is made of.
-/
namespace Lindenmayer.Outcomes

variable {ε α β : Type}

theorem bind_ok {x : Except ε α} {f : α → Except ε β} {b : β} : (x >>= f) = .ok b ↔ ∃ a, x = .ok a ∧ f a = .ok b := by
  cases x with
  | error e =>
    constructor
    · intro impossible
      cases impossible
    · rintro ⟨_, impossible, _⟩
      cases impossible
  | ok a =>
    constructor
    · intro done
      exact ⟨a, rfl, done⟩
    · rintro ⟨_, same, done⟩
      cases same
      exact done

theorem ok_bind (a : α) (f : α → Except ε β) : (.ok a >>= f) = f a := rfl

theorem bind_error {x : Except ε α} {f : α → Except ε β} {e : ε} :
    (x >>= f) = .error e ↔ x = .error e ∨ ∃ a, x = .ok a ∧ f a = .error e := by
  cases x with
  | error failure =>
    constructor
    · intro failed
      cases failed
      exact .inl rfl
    · rintro (same | ⟨_, impossible, _⟩)
      · cases same
        rfl
      · cases impossible
  | ok a =>
    constructor
    · intro failed
      exact .inr ⟨a, rfl, failed⟩
    · rintro (impossible | ⟨_, same, failed⟩)
      · cases impossible
      · cases same
        exact failed

theorem toOption_ok {x : Except ε α} {a : α} : x.toOption = some a ↔ x = .ok a := by
  cases x with
  | error e => simp [Except.toOption]
  | ok b => simp [Except.toOption]

theorem mapM_ok {f : α → Except ε β} {g : α → β} {items : List α} (ok : ∀ item ∈ items, f item = .ok (g item)) :
    items.mapM f = .ok (items.map g) := by
  induction items with
  | nil => rfl
  | cons item rest ih =>
    rw [List.mapM_cons, ok item List.mem_cons_self, ih fun other member => ok other (List.mem_cons_of_mem _ member)]
    rfl

theorem mapM_each {f : α → Except ε β} {items : List α} {results : List β} :
    items.mapM f = .ok results ↔ List.Forall₂ (fun a b => f a = .ok b) items results := by
  induction items generalizing results with
  | nil =>
    rw [List.forall₂_nil_left_iff, List.mapM_nil]
    exact ⟨fun done => (Except.ok.inj done).symm, fun empty => congrArg Except.ok empty.symm⟩
  | cons a rest ih =>
    rw [List.mapM_cons, bind_ok, List.forall₂_cons_left_iff]
    constructor
    · rintro ⟨b, first, done⟩
      obtain ⟨others, taken, done⟩ := bind_ok.mp done
      cases done
      exact ⟨b, others, first, ih.mp taken, rfl⟩
    · rintro ⟨b, others, first, each, rfl⟩
      exact ⟨b, first, bind_ok.mpr ⟨others, ih.mpr each, rfl⟩⟩

theorem mapM_error {f : α → Except ε β} {items : List α} {e : ε} : items.mapM f = .error e ↔
    ∃ before item after, items = before ++ item :: after ∧ (∀ earlier ∈ before, ∃ b, f earlier = .ok b) ∧ f item = .error e := by
  induction items with
  | nil =>
    constructor
    · intro impossible
      cases impossible
    · rintro ⟨before, item, after, split, -⟩
      simp at split
  | cons first rest ih =>
    rw [List.mapM_cons, bind_error]
    constructor
    · rintro (failed | ⟨b, taken, failed⟩)
      · exact ⟨[], first, rest, rfl, by simp, failed⟩
      · rcases bind_error.mp failed with failed | ⟨_, _, failed⟩
        · obtain ⟨before, item, after, rfl, earlier, failed⟩ := ih.mp failed
          exact ⟨first :: before, item, after, rfl, List.forall_mem_cons.mpr ⟨⟨b, taken⟩, earlier⟩, failed⟩
        · cases failed
    · rintro ⟨before, item, after, split, earlier, failed⟩
      rcases List.cons_eq_append_iff.mp split with ⟨rfl, here⟩ | ⟨between, rfl, later⟩
      · cases here
        exact .inl failed
      · obtain ⟨⟨b, taken⟩, earlier⟩ := List.forall_mem_cons.mp earlier
        exact .inr ⟨b, taken, bind_error.mpr (.inl (ih.mpr ⟨between, item, after, later, earlier, failed⟩))⟩

end Lindenmayer.Outcomes
