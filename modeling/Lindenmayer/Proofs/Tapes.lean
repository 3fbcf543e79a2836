import Lindenmayer.Proofs.Keys
import Lindenmayer.Proofs.Rewriting
import Lindenmayer.Store

/-!
What routines do on tapes. A store that grows keeps every tape that it had (`Extends`), so what a table or a system
reads on its tapes stays as it is. A routine for a table does to the table what the function on values does
(`set_mirrors`, `erase_mirrors`, `fill_mirrors`, `copyAll_run`), and where that fails the routine fails alike and
leaves the table. Rewriting puts its result on a tape that nothing else knows (`expand_run`), so a system goes on
without touching the tapes of its seed, of its rules or of any other system.
-/
namespace Lindenmayer.Tapes
open Outcomes Rewriting Keys

/-! ### Runs of routines -/

section
variable {σ τ α β : Type}

theorem run_bind (r : Routine σ α) (f : α → Routine σ β) (s : σ) : (r >>= f) s =
    match r s with
    | (.ok a, t) => f a t
    | (.error failure, t) => (.error failure, t) := by
  change (ExceptT.bindCont f (r s).1 : StateM σ (Except Failure β)) (r s).2 = _
  rcases r s with ⟨failure | a, t⟩
  · rfl
  · rfl

theorem run_pure (a : α) (s : σ) : (pure a : Routine σ α) s = (.ok a, s) := rfl

theorem run_lift (x : Except Failure α) (s : σ) : (liftM x : Routine σ α) s = (x, s) := rfl

theorem run_throw (failure : Failure) (s : σ) : (throw failure : Routine σ α) s = (.error failure, s) := rfl

theorem run_get (s : σ) : (get : Routine σ σ) s = (.ok s, s) := rfl

theorem run_modify (f : σ → σ) (s : σ) : (modify f : Routine σ Unit) s = (.ok (), f s) := rfl

theorem run_within (part : σ → τ) (put : σ → τ → σ) (r : Routine τ α) (s : σ) :
    r.within part put s = ((r (part s)).1, put s (r (part s)).2) := rfl

theorem run_beside (r : Routine Store α) (store : Store) (owner : σ) :
    r.beside (store, owner) = ((r store).1, ((r store).2, owner)) := rfl

end

/-! ### Tapes -/

def Locked (store : Store) (place : Nat) : Prop := ∃ symbols, store[place]? = some ⟨symbols, true⟩

def Free (store : Store) (place : Nat) : Prop := ∃ symbols, store[place]? = some ⟨symbols, false⟩

/-- Every tape of a store is in a later one as it was. -/
def Extends (store later : Store) : Prop :=
  ∀ (place : Nat) (tape : Tape), store[place]? = some tape → later[place]? = some tape

variable {store later last : Store}

theorem extends_self (store : Store) : Extends store store := fun _ _ read => read

theorem Extends.trans (first : Extends store later) (second : Extends later last) : Extends store last :=
  fun place tape read => second place tape (first place tape read)

theorem extends_push (store : Store) (tape : Tape) : Extends store (store.push tape) := by
  intro place other read
  obtain ⟨inside, _⟩ := Array.getElem?_eq_some_iff.mp read
  rwa [Array.getElem?_push, if_neg (Nat.ne_of_lt inside)]

theorem Extends.locked (grown : Extends store later) {place : Nat} (locked : Locked store place) : Locked later place :=
  locked.imp fun _ read => grown place _ read

theorem Extends.free (grown : Extends store later) {place : Nat} (free : Free store place) : Free later place :=
  free.imp fun _ read => grown place _ read

theorem Extends.size_le (grown : Extends store later) : store.size ≤ later.size := by
  by_contra smaller
  have last : later.size < store.size := Nat.lt_of_not_le smaller
  have kept := grown later.size _ (Array.getElem?_eq_getElem last)
  rw [Array.getElem?_eq_none (Nat.le_refl _)] at kept
  cases kept

theorem tape_read {place : Nat} {tape : Tape} (read : store[place]? = some tape) : store.tape place = tape := by
  rw [Store.tape, Array.getD_eq_getD_getElem?, read, Option.getD_some]

theorem symbols_read {place : Nat} {tape : Tape} (read : store[place]? = some tape) : store.symbols place = tape.symbols :=
  congrArg Tape.symbols (tape_read read)

theorem Extends.locked_symbols (grown : Extends store later) {place : Nat} (locked : Locked store place) :
    later.symbols place = store.symbols place := by
  obtain ⟨_, read⟩ := locked
  rw [symbols_read read, symbols_read (grown _ _ read)]

theorem Extends.free_symbols (grown : Extends store later) {place : Nat} (free : Free store place) :
    later.symbols place = store.symbols place := by
  obtain ⟨_, read⟩ := free
  rw [symbols_read read, symbols_read (grown _ _ read)]

theorem locked_not_free {place : Nat} (locked : Locked store place) : ¬ Free store place := by
  rintro ⟨_, read⟩
  obtain ⟨_, other⟩ := locked
  cases other.symm.trans read

theorem Free.inside {place : Nat} (free : Free store place) : place < store.size := by
  obtain ⟨_, read⟩ := free
  exact (Array.getElem?_eq_some_iff.mp read).1

theorem push_read (store : Store) (tape : Tape) : (store.push tape)[store.size]? = some tape :=
  Array.getElem?_push_size

theorem allot_run (symbols : Sequence) (store : Store) : Store.allot symbols store = (.ok store.size, store.push ⟨symbols, false⟩) := rfl

theorem allotLocked_run (symbols : Sequence) (store : Store) :
    Store.allotLocked symbols store = (.ok store.size, store.push ⟨symbols, true⟩) := by
  have written : (store.push ⟨symbols, false⟩).setIfInBounds store.size ⟨symbols, true⟩ = store.push ⟨symbols, true⟩ := by
    rw [← Array.append_singleton, ← Array.append_singleton, Array.setIfInBounds_append_right (Nat.le_refl _), Nat.sub_self]
    rfl
  have read : Store.symbols (store.push ⟨symbols, false⟩) store.size = symbols := symbols_read (push_read store _)
  change (Except.ok store.size, (store.push ⟨symbols, false⟩).setIfInBounds store.size
    ⟨Store.symbols (store.push ⟨symbols, false⟩) store.size, true⟩) = _
  rw [read, written]

theorem copy_run (place : Nat) (store : Store) :
    Store.copy place store = (.ok store.size, store.push ⟨store.symbols place, false⟩) := rfl

/-- A store with other symbols on one of its tapes. -/
def overwrite (store : Store) (place : Nat) (symbols : Sequence) : Store := store.setIfInBounds place ⟨symbols, false⟩

section
variable {place other : Nat}

theorem overwrite_here (free : Free store place) (symbols : Sequence) : (overwrite store place symbols)[place]? = some ⟨symbols, false⟩ := by
  rw [overwrite, Array.getElem?_setIfInBounds, if_pos rfl, if_pos free.inside]

theorem overwrite_elsewhere (apart : other ≠ place) (symbols : Sequence) : (overwrite store place symbols)[other]? = store[other]? := by
  rw [overwrite, Array.getElem?_setIfInBounds, if_neg (Ne.symm apart)]

theorem overwrite_locked (free : Free store place) (locked : Locked store other) (symbols : Sequence) :
    Locked (overwrite store place symbols) other ∧ (overwrite store place symbols).symbols other = store.symbols other := by
  have apart : other ≠ place := fun same => locked_not_free locked (same ▸ free)
  obtain ⟨row, read⟩ := locked
  have reads := (overwrite_elsewhere apart symbols).trans read
  rw [symbols_read read, symbols_read reads]
  exact ⟨⟨row, reads⟩, rfl⟩

end

/-! ### Tables -/

/-- The replacements of a sheet stand on locked tapes. -/
def Kept (store : Store) (sheet : Sheet) : Prop := ∀ rule ∈ sheet.rules, Locked store rule.2

variable {sheet : Sheet}

theorem blank_kept (store : Store) : Kept store .blank := fun _ member => nomatch member

theorem Extends.kept (grown : Extends store later) (kept : Kept store sheet) : Kept later sheet :=
  fun rule member => grown.locked (kept rule member)

theorem Extends.table (grown : Extends store later) (kept : Kept store sheet) : sheet.table later = sheet.table store := by
  have rules : sheet.rules.map (fun r => (r.1, later.symbols r.2)) = sheet.rules.map fun r => (r.1, store.symbols r.2) :=
    List.map_congr_left fun rule member => by rw [grown.locked_symbols (kept rule member)]
  exact congrArg (RuleTable.mk · sheet.index) rules

/-- Writing to a tape that is not locked leaves every table. -/
theorem overwrite_table {place : Nat} (free : Free store place) (kept : Kept store sheet) (symbols : Sequence) :
    Kept (overwrite store place symbols) sheet ∧ sheet.table (overwrite store place symbols) = sheet.table store := by
  refine ⟨fun rule member => (overwrite_locked free (kept rule member) symbols).1, congrArg (RuleTable.mk · sheet.index) ?_⟩
  exact List.map_congr_left fun rule member => by rw [(overwrite_locked free (kept rule member) symbols).2]

theorem table_get? (sheet : Sheet) (store : Store) (s : Symbol) :
    (sheet.table store).get? s = (sheet.rules.find? (·.1 == s)).map fun rule => store.symbols rule.2 := by
  rw [RuleTable.get?, Index.replacement?, Sheet.table, List.find?_map, Option.map_map]
  rfl

/-- Where a rule's replacement stands is found just as the replacement is. -/
theorem place_locked (kept : Kept store sheet) (key : Value) :
    (∃ failure, sheet.place key = .error failure ∧ (sheet.table store).get key = .error failure) ∨
      ∃ place, sheet.place key = .ok place ∧ Locked store place ∧ (sheet.table store).get key = .ok (store.symbols place) := by
  rw [Sheet.place, RuleTable.get]
  cases Symbol.ofValue key with
  | error failure => exact .inl ⟨failure, rfl, rfl⟩
  | ok s =>
    rw [ok_bind, ok_bind, table_get?]
    cases ruled : sheet.rules.find? (·.1 == s) with
    | none => exact .inl ⟨_, rfl, rfl⟩
    | some rule => exact .inr ⟨rule.2, rfl, kept rule (List.mem_of_find?_eq_some ruled), rfl⟩

theorem table_insert (sheet : Sheet) (store : Store) (s : Symbol) (place : Nat) :
    (Sheet.mk (RuleTable.insertRule s place sheet.rules) none).table store =
      (sheet.table store).insert s (store.symbols place) :=
  congrArg (RuleTable.mk · none) (map_insertRule store.symbols s place sheet.rules)

theorem table_remove (sheet : Sheet) (store : Store) (s : Symbol) :
    (Sheet.mk (sheet.rules.filter (·.1 != s)) none).table store = (sheet.table store).remove s :=
  congrArg (RuleTable.mk · none) (List.filter_map (p := fun rule : Symbol × Sequence => rule.1 != s)
    (f := fun r : Symbol × Nat => (r.1, store.symbols r.2))).symm

/-- What a routine for a sheet does, beside what a function does to its table. Where both fail, something is known of
    the sheet that is left. -/
inductive Mirrors (store : Store) (left : Sheet → Prop) : Except Failure RuleTable → Except Failure Unit × (Store × Sheet) → Prop where
  | ok {later : Store} {next : Sheet} (grown : Extends store later) (kept : Kept later next) :
    Mirrors store left (.ok (next.table later)) (.ok (), (later, next))
  | error {later : Store} {next : Sheet} (failure : Failure) (grown : Extends store later) (same : left next) :
    Mirrors store left (.error failure) (.error failure, (later, next))

/-- A symbol gets a new locked tape for its replacement. -/
theorem assign_kept (kept : Kept store sheet) (s : Symbol) (replacement : Sequence) :
    Kept (store.push ⟨replacement, true⟩) ⟨RuleTable.insertRule s store.size sheet.rules, none⟩ ∧
      (Sheet.mk (RuleTable.insertRule s store.size sheet.rules) none).table (store.push ⟨replacement, true⟩) =
        (sheet.table store).insert s replacement := by
  have grown := extends_push store ⟨replacement, true⟩
  constructor
  · intro rule member
    rcases mem_insertRule member with rfl | former
    · exact ⟨replacement, push_read store _⟩
    · exact grown.locked (kept rule former)
  · rw [table_insert, grown.table kept, symbols_read (push_read store _)]

theorem set_mirrors (kept : Kept store sheet) (key given : Value) :
    Mirrors store (· = sheet) ((sheet.table store).set key given) (Sheet.set key given (store, sheet)) := by
  rw [RuleTable.set]
  cases named : Symbol.ofValue key with
  | error failure =>
    have ran : Sheet.set key given (store, sheet) = (.error failure, (store, sheet)) := by
      simp only [Sheet.set, run_bind, run_lift, named]
    rw [ran]
    exact .error failure (extends_self store) rfl
  | ok s =>
    cases spelled : Sequence.ofValue given with
    | error failure =>
      have ran : Sheet.set key given (store, sheet) = (.error failure, (store, sheet)) := by
        simp only [Sheet.set, run_bind, run_lift, named, spelled]
      rw [ran]
      exact .error failure (extends_self store) rfl
    | ok replacement =>
      have ran : Sheet.set key given (store, sheet) =
          (.ok (), (store.push ⟨replacement, true⟩, ⟨RuleTable.insertRule s store.size sheet.rules, none⟩)) := by
        simp only [Sheet.set, run_bind, run_lift, named, spelled, run_beside, allotLocked_run, Sheet.assign, run_modify]
      obtain ⟨keeps, same⟩ := assign_kept kept s replacement
      rw [ran, ok_bind, ok_bind, ← same]
      exact .ok (extends_push store _) keeps

theorem erase_mirrors (kept : Kept store sheet) (key : Value) :
    Mirrors store (· = sheet) ((sheet.table store).erase key) (Sheet.erase key (store, sheet)) := by
  rw [RuleTable.erase]
  cases named : Symbol.ofValue key with
  | error failure =>
    have ran : Sheet.erase key (store, sheet) = (.error failure, (store, sheet)) := by
      simp only [Sheet.erase, run_bind, run_lift, named]
    rw [ran]
    exact .error failure (extends_self store) rfl
  | ok s =>
    rw [ok_bind, table_get?]
    cases ruled : sheet.rules.find? (·.1 == s) with
    | none =>
      have ran : Sheet.erase key (store, sheet) = (.error (.missingRule s), (store, sheet)) := by
        simp only [Sheet.erase, run_bind, run_lift, named, run_get, ruled, run_throw]
      rw [ran]
      exact .error _ (extends_self store) rfl
    | some rule =>
      have ran : Sheet.erase key (store, sheet) = (.ok (), (store, ⟨sheet.rules.filter (·.1 != s), none⟩)) := by
        simp only [Sheet.erase, run_bind, run_lift, named, run_get, ruled, run_modify]
      rw [ran]
      change Mirrors store _ (.ok ((sheet.table store).remove s)) _
      rw [← table_remove]
      exact .ok (extends_self store) fun rule member => kept rule (List.mem_filter.mp member).1

/-- Rules are set one after the other; if one cannot be, those before it have been. -/
theorem fill_mirrors (kept : Kept store sheet) (given : List Value) :
    Mirrors store (fun _ => True) ((sheet.table store).insertAll given) (Sheet.fill given (store, sheet)) := by
  induction given generalizing store sheet with
  | nil => exact .ok (extends_self store) kept
  | cons rule rest ih =>
    rw [RuleTable.insertAll]
    cases taken : RuleTable.parts rule with
    | error failure =>
      have ran : Sheet.fill (rule :: rest) (store, sheet) = (.error failure, (store, sheet)) := by
        simp only [Sheet.fill, run_bind, run_lift, taken]
      rw [ran]
      exact .error failure (extends_self store) trivial
    | ok both =>
      obtain ⟨key, replacement⟩ := both
      have first := set_mirrors kept key replacement
      rw [ok_bind]
      dsimp only
      generalize setting : Sheet.set key replacement (store, sheet) = run at first
      generalize (sheet.table store).set key replacement = result at first ⊢
      cases first with
      | @error later next failure grown =>
        have ran : Sheet.fill (rule :: rest) (store, sheet) = (.error failure, (later, next)) := by
          simp only [Sheet.fill, run_bind, run_lift, taken, setting]
        rw [ran]
        exact .error failure grown trivial
      | @ok later next grown keeps =>
        have ran : Sheet.fill (rule :: rest) (store, sheet) = Sheet.fill rest (later, next) := by
          simp only [Sheet.fill, run_bind, run_lift, taken, setting]
        have others := ih keeps
        rw [ran, ok_bind]
        generalize Sheet.fill rest (later, next) = run at others ⊢
        generalize (next.table later).insertAll rest = result at others ⊢
        cases others with
        | ok further keeps => exact .ok (grown.trans further) keeps
        | error failure further => exact .error failure (grown.trans further) trivial

theorem copyAll_run (kept : Kept store sheet) {rules : List (Symbol × Nat)} (locked : ∀ rule ∈ rules, Locked store rule.2) :
    ∃ later next, Sheet.copyAll rules (store, sheet) = (.ok (), (later, next)) ∧ Extends store later ∧ Kept later next ∧
      next.table later =
        (rules.map fun r => (r.1, store.symbols r.2)).foldl (fun t r => t.insert r.1 r.2) (sheet.table store) := by
  induction rules generalizing store sheet with
  | nil => exact ⟨store, sheet, rfl, extends_self store, kept, rfl⟩
  | cons rule rest ih =>
    obtain ⟨s, former⟩ := rule
    have pushed := extends_push store ⟨store.symbols former, true⟩
    obtain ⟨keeps, same⟩ := assign_kept kept s (store.symbols former)
    obtain ⟨later, next, ran, grown, kept, table⟩ :=
      ih keeps fun rule member => pushed.locked (locked rule (List.mem_cons_of_mem _ member))
    refine ⟨later, next, ?_, pushed.trans grown, kept, ?_⟩
    · simp only [Sheet.copyAll, run_bind, run_get, run_beside, allotLocked_run, Sheet.assign, run_modify]
      exact ran
    · have others : rest.map (fun r => (r.1, Store.symbols (store.push ⟨store.symbols former, true⟩) r.2)) =
          rest.map fun r => (r.1, store.symbols r.2) :=
        List.map_congr_left fun rule member => by rw [pushed.locked_symbols (locked rule (List.mem_cons_of_mem _ member))]
      rw [table, same, others]
      rfl

/-! ### Rewriting -/

theorem apply_run (current : Current (sheet.table store)) (place : Nat) : ∃ index,
    Sheet.apply place (store, sheet) = (.ok store.size,
        (store.push ⟨(sheet.table store).produce (store.symbols place), false⟩, { sheet with index })) ∧
      (sheet.table store).apply (store.symbols place) =
        .ok ((sheet.table store).produce (store.symbols place), Sheet.table { sheet with index } store) := by
  obtain ⟨after, applied, same, _⟩ := apply_total_correct current (store.symbols place)
  have table : Sheet.table { sheet with index := after.index } store = after :=
    congrArg (RuleTable.mk · after.index) same.symm
  refine ⟨after.index, ?_, table.symm ▸ applied⟩
  simp only [Sheet.apply, run_bind, run_get, run_lift, applied, run_modify, run_beside, allot_run]

/-- Rewriting leaves its result on a tape that is behind all that were there at the beginning. -/
structure Rewritten (base : Nat) (store later : Store) (next : Sheet) (found : Nat) : Prop where
  grown : Extends store later
  kept : Kept later next
  free : Free later found
  fresh : base ≤ found

theorem apply_rewrites (kept : Kept store sheet) (current : Current (sheet.table store)) {base : Nat} (inside : base ≤ store.size)
    (place : Nat) : ∃ later next found, Sheet.apply place (store, sheet) = (.ok found, (later, next)) ∧
      Rewritten base store later next found ∧
      (sheet.table store).apply (store.symbols place) = .ok (later.symbols found, next.table later) := by
  obtain ⟨index, ran, applied⟩ := apply_run current place
  have pushed := extends_push store ⟨(sheet.table store).produce (store.symbols place), false⟩
  have keeps : Kept store { sheet with index } := kept
  refine ⟨_, _, _, ran, ⟨pushed, pushed.kept keeps, ⟨_, push_read store _⟩, inside⟩, ?_⟩
  rw [symbols_read (push_read store _), pushed.table keeps]
  exact applied

theorem expand_run (kept : Kept store sheet) (current : Current (sheet.table store)) {base place : Nat} (free : Free store place)
    (fresh : base ≤ place) (inside : base ≤ store.size) (n : Nat) : ∃ later next found,
      Sheet.expand n place (store, sheet) = (.ok found, (later, next)) ∧ Rewritten base store later next found ∧
      (sheet.table store).expand n (store.symbols place) = .ok (later.symbols found, next.table later) := by
  -- Every round reads the tape that the round before has put behind all others, so the place is general.
  induction n generalizing store sheet place with
  | zero => exact ⟨store, sheet, place, rfl, ⟨extends_self store, kept, free, fresh⟩, rfl⟩
  | succ n ih =>
    obtain ⟨middle, ruled, next, ran, first, applied⟩ := apply_rewrites kept current inside place
    have currentNext : Current (ruled.table middle) := by
      obtain ⟨after, again, _, currentAfter⟩ := apply_total_correct current (store.symbols place)
      rwa [(Prod.mk.inj (Except.ok.inj (applied.symm.trans again))).2]
    obtain ⟨later, last, found, rest, rewritten, expanded⟩ :=
      ih first.kept currentNext first.free first.fresh (Nat.le_trans inside first.grown.size_le)
    refine ⟨later, last, found, ?_, { rewritten with grown := first.grown.trans rewritten.grown }, ?_⟩
    · simp only [Sheet.expand, run_bind, ran]
      exact rest
    · rw [RuleTable.expand, applied]
      exact expanded

/-! ### Systems -/

variable {m : Machine}

/-- What a routine for a system does, beside what a function on values does. It leaves the state on a tape that is
    new, and changes nothing where it fails. -/
inductive Follows (store : Store) (m : Machine) : Except Failure Derivation → Except Failure Unit × (Store × Machine) → Prop where
  | ok {later : Store} {next : Machine} (grown : Extends store later) (kept : Kept later next.sheet) (seed : Locked later next.seed)
      (state : Free later next.state) (fresh : store.size ≤ next.state) :
    Follows store m (.ok (next.system later)) (.ok (), (later, next))
  | error {failure : Failure} : Follows store m (.error failure) (.error failure, (store, m))

theorem evaluate_follows (kept : Kept store m.sheet) (seed : Locked store m.seed) (current : Current (m.sheet.table store))
    (given : Value) : Follows store m ((m.system store).evaluate given) (Machine.evaluate given (store, m)) := by
  rw [Derivation.evaluate]
  cases counted : generationCount given with
  | error failure =>
    have ran : Machine.evaluate given (store, m) = (.error failure, (store, m)) := by
      simp only [Machine.evaluate, run_bind, run_lift, counted]
    rw [ran]
    exact .error
  | ok n =>
    have pushed := extends_push store ⟨store.symbols m.state, false⟩
    have table := pushed.table kept
    obtain ⟨later, next, found, ran, rewritten, expanded⟩ := expand_run (pushed.kept kept) (table.symm ▸ current)
      ⟨_, push_read store _⟩ (Nat.le_refl store.size) pushed.size_le n
    have evaluated : Machine.evaluate given (store, m) = (.ok (), (later, ⟨next, m.seed, found⟩)) := by
      simp only [Machine.evaluate, run_bind, run_lift, counted, run_get, run_beside, copy_run, Machine.onSheet, run_within, ran,
        Machine.moveTo, run_modify]
    have grown := pushed.trans rewritten.grown
    rw [table, symbols_read (push_read store _)] at expanded
    have advanced : (m.system store).advance n = .ok (Machine.system ⟨next, m.seed, found⟩ later) := by
      change _ = Except.ok (Derivation.mk (next.table later) (later.symbols m.seed) (later.symbols found))
      rw [grown.locked_symbols seed]
      exact bind_ok.mpr ⟨_, expanded, rfl⟩
    rw [evaluated, ok_bind, advanced]
    exact .ok grown rewritten.kept (grown.locked seed) rewritten.free rewritten.fresh

theorem reset_follows (kept : Kept store m.sheet) (seed : Locked store m.seed) :
    Follows store m (.ok (m.system store).reset) (Machine.reset (store, m)) := by
  have pushed := extends_push store ⟨store.symbols m.seed, false⟩
  have same : (m.system store).reset = Machine.system { m with state := store.size } (store.push ⟨store.symbols m.seed, false⟩) := by
    change _ = Derivation.mk (m.sheet.table (store.push _)) (Store.symbols (store.push _) m.seed) (Store.symbols (store.push _) store.size)
    rw [pushed.table kept, pushed.locked_symbols seed, symbols_read (push_read store _)]
    rfl
  rw [same]
  exact .ok pushed (pushed.kept kept) (pushed.locked seed) ⟨_, push_read store _⟩ (Nat.le_refl _)

theorem lay_run (rules : List (Symbol × Sequence)) (store : Store) : ∃ later laid, Machine.lay rules store = (.ok laid, later) ∧
    Extends store later ∧ (∀ rule ∈ laid, Locked later rule.2) ∧ laid.map (fun r => (r.1, later.symbols r.2)) = rules := by
  induction rules generalizing store with
  | nil => exact ⟨store, [], rfl, extends_self store, List.forall_mem_nil _, rfl⟩
  | cons rule rest ih =>
    obtain ⟨s, replacement⟩ := rule
    have pushed := extends_push store ⟨replacement, true⟩
    obtain ⟨later, laid, ran, grown, locked, same⟩ := ih (store.push ⟨replacement, true⟩)
    have here := grown _ _ (push_read store ⟨replacement, true⟩)
    refine ⟨later, (s, store.size) :: laid, ?_, pushed.trans grown, List.forall_mem_cons.mpr ⟨⟨_, here⟩, locked⟩, ?_⟩
    · simp only [Machine.lay, run_bind, allotLocked_run, ran, run_pure]
    · rw [List.map_cons, same, symbols_read here]

theorem plant_run (seed : Sequence) (store : Store) : ∃ later, Machine.plant seed store = (.ok (store.size, store.size + 1), later) ∧
    Extends store later ∧ later[store.size]? = some ⟨seed, true⟩ ∧ later[store.size + 1]? = some ⟨seed, false⟩ := by
  have read : Store.symbols (store.push ⟨seed, true⟩) store.size = seed := symbols_read (push_read store _)
  have size : (store.push ⟨seed, true⟩).size = store.size + 1 := Array.size_push _
  have stated := extends_push (store.push ⟨seed, true⟩) ⟨seed, false⟩
  refine ⟨(store.push ⟨seed, true⟩).push ⟨seed, false⟩, ?_, (extends_push store _).trans stated, stated _ _ (push_read store _),
    size ▸ push_read _ _⟩
  simp only [Machine.plant, run_bind, allotLocked_run, copy_run, run_pure, read, size]

theorem become_run (m : Machine) (s : Derivation) (store : Store) : ∃ later next, Machine.become s (store, m) = (.ok (), (later, next)) ∧
    Extends store later ∧ Kept later next.sheet ∧ (Locked later next.seed ∧ Free later next.state) ∧ store.size ≤ next.state ∧
      next.system later = s := by
  obtain ⟨laying, laid, ran, grown, kept, same⟩ := lay_run s.rules.rules store
  have seeded := extends_push laying ⟨s.seed, true⟩
  have stated := extends_push (laying.push ⟨s.seed, true⟩) ⟨s.state, false⟩
  have seed := stated _ _ (push_read laying ⟨s.seed, true⟩)
  have state := push_read (laying.push ⟨s.seed, true⟩) ⟨s.state, false⟩
  have keeps : Kept laying ⟨laid, s.rules.index⟩ := kept
  refine ⟨(laying.push ⟨s.seed, true⟩).push ⟨s.state, false⟩,
    ⟨⟨laid, s.rules.index⟩, laying.size, (laying.push ⟨s.seed, true⟩).size⟩, ?_, grown.trans (seeded.trans stated),
    (seeded.trans stated).kept keeps, ⟨⟨_, seed⟩, ⟨_, state⟩⟩, Nat.le_trans grown.size_le seeded.size_le, ?_⟩
  · simp only [Machine.become, run_bind, run_beside, ran, allotLocked_run, allot_run, run_modify]
  · rw [Machine.system, (seeded.trans stated).table keeps, symbols_read seed, symbols_read state, Sheet.table, same]

theorem writeState_run (free : Free store m.state) (index symbol : Int) :
    Machine.write Machine.state index symbol (store, m) =
      match Store.written (store.symbols m.state) index symbol with
      | .ok symbols => (.ok (), (overwrite store m.state symbols, m))
      | .error failure => (.error failure, (store, m)) := by
  obtain ⟨symbols, read⟩ := free
  rw [symbols_read read]
  have tape := tape_read read
  cases written : Store.written symbols index symbol with
  | ok symbols =>
    simp only [Machine.write, run_bind, run_get, run_beside, Store.write, tape, Bool.false_eq_true, ↓reduceIte, run_lift, written,
      run_modify, overwrite]
  | error failure =>
    simp only [Machine.write, run_bind, run_get, run_beside, Store.write, tape, Bool.false_eq_true, ↓reduceIte, run_lift, written]

theorem write_locked {place : Nat} (locked : Locked store place) (index symbol : Int) :
    Store.write place index symbol store = (.error .readOnly, store) := by
  obtain ⟨symbols, read⟩ := locked
  simp only [Store.write, run_bind, run_get, tape_read read, ↓reduceIte, run_throw]

end Lindenmayer.Tapes
