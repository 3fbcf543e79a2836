import Mathlib.Logic.Function.Iterate
import Lindenmayer.Proofs.Lookup
import Lindenmayer.Proofs.Outcomes
import Lindenmayer.Expansion

/-!
Rewriting through an index is rewriting symbol by symbol. The cells of the next generation are laid out
by the lengths of what each symbol becomes, and the cell at `j` of the image of the symbol at `k` is
read from where it stands (`gather_images`). So one generation is the flat-map of the rules
(`index_produce_total_correct`), whether the table had its index or made it, and any number of
generations are as many rounds of it (`expand_total_correct`).
-/
namespace Lindenmayer.Rewriting
open Index Lookup Outcomes

/-- The index that a table remembers, if it does, is the one of its rules. -/
def Current (t : RuleTable) : Prop := ∀ index, t.index = some index → index = ofRules t.rules

/-- The cells of one image, read one after the other. -/
private theorem gather_image (read : Nat × Nat → Except Failure Symbol) (owner start : Nat) (image : Sequence)
    (reads : ∀ j x, image[j]? = some x → read (owner, start + j) = .ok x) :
    ((List.replicate image.length owner).zipIdx start).mapM read = .ok image := by
  induction image generalizing start with
  | nil => rfl
  | cons s rest ih =>
    have first : read (owner, start) = .ok s := reads 0 s rfl
    have later := ih (start + 1) fun j x at_j => by
      have next := reads (j + 1) x (by simpa using at_j)
      rwa [Nat.add_comm j 1, ← Nat.add_assoc] at next
    rw [List.length_cons, List.replicate_succ, List.zipIdx_cons, List.mapM_cons, first, later]
    rfl

/-- Reading the cells that are laid out by the lengths of some images gives the images joined, when each
    cell is read from its owner's image, counted from where that image starts. -/
private theorem gather_images (read : Nat × Nat → Except Failure Symbol) (images : List Sequence) (owner start : Nat)
    (reads : ∀ k image, images[k]? = some image → ∀ j x, image[j]? = some x →
      read (owner + k, start + ((images.map List.length).take k).sum + j) = .ok x) :
    ((((images.map List.length).zipIdx owner).flatMap fun (count, i) => List.replicate count i).zipIdx start).mapM read =
      .ok images.flatten := by
  induction images generalizing owner start with
  | nil => rfl
  | cons image rest ih =>
    have first := gather_image read owner start image fun j x at_j => by
      simpa using reads 0 image rfl j x at_j
    have later := ih (owner + 1) (start + image.length) fun k other at_k j x at_j => by
      have cell := reads (k + 1) other (by simpa using at_k) j x at_j
      simpa [Nat.add_assoc, Nat.add_comm 1] using cell
    rw [List.map_cons, List.zipIdx_cons, List.flatMap_cons, List.zipIdx_append, List.mapM_append]
    simp only [List.length_replicate]
    rw [first, later]
    rfl

/-- Each cell's kind leads to the slot of its symbol. -/
private theorem kind_slot (rules : List (Symbol × Sequence)) {sequence : Sequence} {s : Symbol} (member : s ∈ sequence) :
    readAt ((distinct sequence).map (slotBy rules)).toArray
      (lowerBound (distinct sequence).toArray s 0 (distinct sequence).toArray.size) = .ok (slotBy rules s) := by
  have listed : s ∈ (distinct sequence).toArray := by simpa using distinct_mem.mpr member
  have standing := lowerBound_found (distinct_ascending sequence) listed
  rw [List.getElem?_toArray] at standing
  rw [readAt, List.getElem?_toArray, List.getElem?_map, standing]
  rfl

/-- The counts of all cells, looked up by their kinds. -/
private theorem kind_counts (rules : List (Symbol × Sequence)) (sequence : Sequence) :
    (sequence.toArray.map fun s => lowerBound (distinct sequence).toArray s 0 (distinct sequence).toArray.size).toList.mapM
      (fun kind => do return (← readAt ((distinct sequence).map (slotBy rules)).toArray kind).count) =
        (.ok ((sequence.map (imageBy rules)).map List.length) : Except Failure (List Nat)) := by
  rw [Array.toList_map, List.mapM_map, List.map_map]
  refine mapM_ok fun s member => ?_
  rw [Function.comp_apply, kind_slot rules member]
  rfl

/-- An index produces what replacing every symbol by its image gives, and every place that it reads is
    there. -/
theorem index_produce_total_correct {rules : List (Symbol × Sequence)} (some_ : rules ≠ []) (sequence : Sequence) :
    (ofRules rules).produce sequence = .ok (sequence.flatMap (imageBy rules)) := by
  have slots : (distinct sequence).toArray.toList.mapM (slot (ofRules rules)) =
      .ok ((distinct sequence).toArray.toList.map (slotBy rules)) := mapM_ok fun s _ => slot_total_correct some_ s
  have counts := kind_counts rules sequence
  simp only [produce, slots, bind, Except.bind]
  simp only [bind, Except.bind] at counts
  rw [counts]
  dsimp only
  by_cases nothing : (((sequence.map (imageBy rules)).map List.length).all (· == 0)) = true
  · rw [if_pos nothing]
    have empty : sequence.flatMap (imageBy rules) = [] := by
      refine List.flatMap_eq_nil_iff.mpr fun s member => ?_
      simpa using List.all_eq_true.mp nothing _ (List.mem_map_of_mem (List.mem_map_of_mem member))
    rw [empty]
    rfl
  · rw [if_neg nothing, List.flatMap_def]
    refine gather_images _ (sequence.map (imageBy rules)) 0 0 ?_
    intro k image at_k j x at_j
    obtain ⟨s, at_cell, rfl⟩ : ∃ s, sequence[k]? = some s ∧ imageBy rules s = image := by simpa using at_k
    have member : s ∈ sequence := List.mem_of_getElem? at_cell
    have start : (offsets ((sequence.map (imageBy rules)).map List.length))[k]? =
        some (((sequence.map (imageBy rules)).map List.length).take k).sum := by
      refine offsets_read ?_
      simpa using (List.getElem?_eq_some_iff.mp at_cell).1
    have kind : readAt (sequence.toArray.map fun s => lowerBound (distinct sequence).toArray s 0 (distinct sequence).toArray.size) k =
        .ok (lowerBound (distinct sequence).toArray s 0 (distinct sequence).toArray.size) := by
      simp [readAt, at_cell]
    simp only [Nat.zero_add, kind, kind_slot rules member]
    by_cases ruled : (slotBy rules s).ruled = true
    · obtain ⟨place, leads, cells⟩ := flat_read ruled
      simp only [ruled, ↓reduceIte, readAt, start, leads, Nat.add_sub_cancel_left, cells j x at_j]
    · have kept : imageBy rules s = [s] := by
        have absent : replacement? rules s = none := by simpa [slotBy] using ruled
        simp [imageBy, absent]
      have same : x = s := by
        rw [kept] at at_j
        cases j with
        | zero => simpa using at_j.symm
        | succ j => simp at at_j
      simp [ruled, readAt, at_cell, same]

/-! ### Generations -/

/-- One call gives one round of the rules and leaves the same rules, with an index that is theirs. -/
theorem apply_total_correct {t : RuleTable} (current : Current t) (sequence : Sequence) :
    ∃ after, t.apply sequence = .ok (t.produce sequence, after) ∧ after.rules = t.rules ∧ Current after := by
  rw [RuleTable.apply]
  by_cases empty : sequence.isEmpty = true
  · rw [if_pos empty]
    have none_ : sequence = [] := by simpa using empty
    subst none_
    exact ⟨t, rfl, rfl, current⟩
  · rw [if_neg empty]
    by_cases bare : t.rules.isEmpty = true
    · rw [if_pos bare]
      have kept : t.produce sequence = sequence := by
        have none_ : t.rules = [] := by simpa using bare
        have each : t.image = fun s => [s] := by
          funext s
          simp [RuleTable.image, RuleTable.get?, none_, replacement?]
        rw [RuleTable.produce, each, List.flatMap_singleton']
      exact ⟨t, by rw [kept], rfl, current⟩
    · rw [if_neg bare]
      have compiled : t.compiled = ofRules t.rules := by
        rw [RuleTable.compiled]
        cases known : t.index with
        | none => rfl
        | some index => exact current index known
      have produced := index_produce_total_correct (by simpa using bare) sequence
      refine ⟨{ t with index := some t.compiled }, ?_, rfl, ?_⟩
      · simp only [compiled, produced]
        rfl
      · intro index known
        rw [← Option.some_inj.mp known, compiled]

theorem generation_same {t after : RuleTable} (same : after.rules = t.rules) (n : Nat) (sequence : Sequence) :
    after.generation n sequence = t.generation n sequence := by
  have produce (s : Sequence) : after.produce s = t.produce s := by
    have image : after.image = t.image := by
      funext symbol
      rw [RuleTable.image, RuleTable.image, RuleTable.get?, RuleTable.get?, same]
    rw [RuleTable.produce, RuleTable.produce, image]
  induction n generalizing sequence with
  | zero => rfl
  | succ n ih => rw [RuleTable.generation, RuleTable.generation, produce, ih]

/-- Expanding gives as many rounds of the rules as generations are asked for. -/
theorem expand_total_correct {t : RuleTable} (current : Current t) (n : Nat) (sequence : Sequence) :
    ∃ after, t.expand n sequence = .ok (t.generation n sequence, after) ∧ after.rules = t.rules ∧ Current after := by
  induction n generalizing t sequence with
  | zero => exact ⟨t, rfl, rfl, current⟩
  | succ n ih =>
    obtain ⟨middle, applied, sameFirst, currentFirst⟩ := apply_total_correct current sequence
    obtain ⟨after, expanded, sameRest, currentRest⟩ := ih currentFirst (t.produce sequence)
    refine ⟨after, ?_, sameRest.trans sameFirst, currentRest⟩
    rw [RuleTable.expand, applied]
    change middle.expand n (t.produce sequence) = _
    rw [expanded, generation_same sameFirst]
    rfl

/-- The generation after so many is as many rounds of one. -/
theorem generation_iterate (t : RuleTable) (n : Nat) (sequence : Sequence) : t.generation n sequence = t.produce^[n] sequence := by
  induction n generalizing sequence with
  | zero => rfl
  | succ n ih => rw [RuleTable.generation, ih, Function.iterate_succ_apply]

/-- Tables that map alike rewrite alike. -/
theorem rewrite_alike {t u : RuleTable} (currentFirst : Current t) (currentSecond : Current u)
    (alike : ∀ symbol, t.get? symbol = u.get? symbol) (n : Nat) (sequence : Sequence) :
    Prod.fst <$> t.expand n sequence = Prod.fst <$> u.expand n sequence := by
  have produce : t.produce = u.produce := by
    have image : t.image = u.image := funext fun symbol => by rw [RuleTable.image, RuleTable.image, alike]
    exact funext fun sequence => by rw [RuleTable.produce, RuleTable.produce, image]
  obtain ⟨first, expandedFirst, _⟩ := expand_total_correct currentFirst n sequence
  obtain ⟨second, expandedSecond, _⟩ := expand_total_correct currentSecond n sequence
  rw [expandedFirst, expandedSecond, generation_iterate, generation_iterate, produce]
  rfl

/-- Rewriting through the index is the naive parallel rewriting: one call replaces each symbol, left to
    right, by its replacement if it has one and by itself otherwise, and expanding does so as many
    times as generations are asked for. Both succeed, so no place outside of an array is read. Tables are
    made with a current index or none (`ofRules_current`, `ofValue_current`), and keep it so. -/
theorem expand_rounds {t : RuleTable} (current : Current t) (sequence : Sequence) (n : Nat) :
    (∃ after, t.apply sequence = .ok (sequence.flatMap fun s => (t.get? s).getD [s], after)) ∧
      ∃ after, t.expand n sequence =
        .ok ((fun sequence : Sequence => sequence.flatMap fun s => (t.get? s).getD [s])^[n] sequence, after) := by
  obtain ⟨next, applied, _⟩ := apply_total_correct current sequence
  obtain ⟨after, expanded, _⟩ := expand_total_correct current n sequence
  refine ⟨⟨next, applied⟩, after, ?_⟩
  rw [expanded, generation_iterate]
  rfl

/-- A table that remembers its index, with a rule that deletes and a symbol above all keys. -/
theorem expand_rounds_remembered :
    let rules : List (Symbol × Sequence) := [(88, []), (70, [70, 43])]
    let t : RuleTable := ⟨rules, some (ofRules rules)⟩
    Current t ∧ (∃ after, t.apply [70, 88, 0xFFFFFFFF] = .ok ([70, 43, 0xFFFFFFFF], after)) ∧
      ∃ after, t.expand 2 [70, 88, 0xFFFFFFFF] = .ok ([70, 43, 43, 0xFFFFFFFF], after) := by
  intro rules t
  have current : Current t := by
    rintro index known
    exact (Option.some_inj.mp known).symm
  exact ⟨current, expand_rounds current [70, 88, 0xFFFFFFFF] 2⟩

/-! ### Tables that are built and changed -/

theorem current_fresh (rules : List (Symbol × Sequence)) : Current ⟨rules, none⟩ := by
  intro index known
  cases known

theorem current_indexed (rules : List (Symbol × Sequence)) : Current ⟨rules, some (Index.ofRules rules)⟩ := by
  intro index known
  exact (Option.some_inj.mp known).symm

/-- Setting a rule forgets the index. -/
theorem set_current {t after : RuleTable} {key replacement : Value} (done : t.set key replacement = .ok after) :
    Current after := by
  obtain ⟨symbol, _, done⟩ := bind_ok.mp done
  obtain ⟨sequence, _, done⟩ := bind_ok.mp done
  cases done
  exact current_fresh _

/-- Erasing a rule forgets the index. -/
theorem erase_current {t after : RuleTable} {key : Value} (done : t.erase key = .ok after) : Current after := by
  obtain ⟨symbol, _, done⟩ := bind_ok.mp done
  cases ruled : t.get? symbol with
  | none =>
    rw [ruled] at done
    cases done
  | some replacement =>
    rw [ruled] at done
    cases done
    exact current_fresh _

theorem insertAll_current {t after : RuleTable} {given : List Value} (current : Current t)
    (done : t.insertAll given = .ok after) : Current after := by
  induction given generalizing t with
  | nil =>
    cases done
    exact current
  | cons rule rest ih =>
    obtain ⟨⟨key, replacement⟩, _, done⟩ := bind_ok.mp done
    obtain ⟨next, inserted, done⟩ := bind_ok.mp done
    exact ih (set_current inserted) done

/-- A table made from a value knows no index yet. -/
theorem ofValue_current {given : Value} {t : RuleTable} (done : RuleTable.ofValue given = .ok t) : Current t := by
  obtain ⟨rules, _, inserted⟩ := bind_ok.mp done
  exact insertAll_current (current_fresh []) inserted

theorem ofRules_current (rules : List (Symbol × Sequence)) : Current (RuleTable.ofRules rules) := by
  have kept (t : RuleTable) (current : Current t) : Current (rules.foldl (fun t r => t.insert r.1 r.2) t) := by
    induction rules generalizing t with
    | nil => exact current
    | cons rule rest ih => exact ih (t.insert rule.1 rule.2) (current_fresh _)
  exact kept _ (current_fresh [])

end Lindenmayer.Rewriting
