import Mathlib.Algebra.GroupWithZero.Nat
import Lindenmayer.RuleTable.Index

/-!
Looking symbols up in an index. A lower bound cuts an ascending array where its entries stop being
below the sought symbol, so a symbol that stands in the array is found at its lower bound
(`lowerBound_found`). From this the slot of a symbol is what its rule says, also above the last key
(`slot_total_correct`), and the replacement of a ruled symbol is read from the flat array at the start
that the slot leads to (`flat_read`).
-/
namespace Lindenmayer.Lookup
open Index

/-- The symbols of an array do not descend. -/
def Ascending (a : Array Symbol) : Prop := a.toList.Pairwise fun s t => s.toNat ≤ t.toNat

/-- The symbols before a place are below `s`, and those from it on are not. -/
structure Cut (a : Array Symbol) (s : Symbol) (place : Nat) : Prop where
  below : ∀ i found, i < place → a[i]? = some found → found.toNat < s.toNat
  above : ∀ i found, place ≤ i → a[i]? = some found → s.toNat ≤ found.toNat

/-- What one symbol becomes under a list of rules. -/
def imageBy (rules : List (Symbol × Sequence)) (s : Symbol) : Sequence := (replacement? rules s).getD [s]

private theorem ascending_le {a : Array Symbol} (ascending : Ascending a) {i j : Nat} {s t : Symbol} (before : i ≤ j)
    (first : a[i]? = some s) (second : a[j]? = some t) : s.toNat ≤ t.toNat := by
  rcases Nat.lt_or_eq_of_le before with less | same
  · obtain ⟨iInside, firstIs⟩ := Array.getElem?_eq_some_iff.mp first
    obtain ⟨jInside, secondIs⟩ := Array.getElem?_eq_some_iff.mp second
    have ordered := List.pairwise_iff_getElem.mp ascending i j (by simpa using iInside) (by simpa using jInside) less
    simpa [firstIs, secondIs] using ordered
  · subst same
    rw [first] at second
    cases second
    exact Nat.le_refl _

/-- A lower bound keeps what its two ends cut off, until they meet. -/
private theorem lowerBound_cut {a : Array Symbol} (ascending : Ascending a) (s : Symbol) (low high : Nat)
    (ordered : low ≤ high) (inside : high ≤ a.size)
    (below : ∀ i found, i < low → a[i]? = some found → found.toNat < s.toNat)
    (above : ∀ i found, high ≤ i → a[i]? = some found → s.toNat ≤ found.toNat) :
    Cut a s (lowerBound a s low high) := by
  rw [lowerBound]
  by_cases open_ : low < high
  · have middleInside : (low + high) / 2 < a.size := by omega
    have middle : a[(low + high) / 2]? = some a[(low + high) / 2] := Array.getElem?_eq_getElem middleInside
    simp only [open_, ↓reduceIte, middle]
    by_cases smaller : a[(low + high) / 2].toNat < s.toNat
    · rw [if_pos smaller]
      refine lowerBound_cut ascending s _ _ (by omega) inside ?_ above
      intro i found before at_i
      exact Nat.lt_of_le_of_lt (ascending_le ascending (by omega) at_i middle) smaller
    · rw [if_neg smaller]
      refine lowerBound_cut ascending s _ _ (by omega) (by omega) below ?_
      intro i found after at_i
      exact Nat.le_trans (Nat.le_of_not_lt smaller) (ascending_le ascending after middle at_i)
  · rw [if_neg open_]
    exact ⟨below, fun i found after => above i found (by omega)⟩
termination_by high - low

/-- Over a whole ascending array the lower bound is the place of the cut. -/
theorem lowerBound_total_correct {a : Array Symbol} (ascending : Ascending a) (s : Symbol) :
    Cut a s (lowerBound a s 0 a.size) := by
  refine lowerBound_cut ascending s 0 a.size (Nat.zero_le _) (Nat.le_refl _) ?_ ?_
  · intro i found before
    omega
  · intro i found after at_i
    have inside := (Array.getElem?_eq_some_iff.mp at_i).1
    omega

/-- A symbol of an ascending array stands at its lower bound. -/
theorem lowerBound_found {a : Array Symbol} (ascending : Ascending a) {s : Symbol} (member : s ∈ a) :
    a[lowerBound a s 0 a.size]? = some s := by
  have cut := lowerBound_total_correct ascending s
  obtain ⟨i, inside, at_i⟩ := Array.mem_iff_getElem.mp member
  have standing : a[i]? = some s := by rw [Array.getElem?_eq_getElem inside, at_i]
  have place : lowerBound a s 0 a.size ≤ i := by
    rcases Nat.lt_or_ge i (lowerBound a s 0 a.size) with before | after
    · exact absurd (cut.below i s before standing) (Nat.lt_irrefl _)
    · exact after
  have bound : lowerBound a s 0 a.size < a.size := by omega
  have here : a[lowerBound a s 0 a.size]? = some a[lowerBound a s 0 a.size] := Array.getElem?_eq_getElem bound
  have least := cut.above _ _ (Nat.le_refl _) here
  have greatest := ascending_le ascending place here standing
  rw [here, Option.some_inj]
  exact UInt32.toNat_inj.mp (Nat.le_antisymm greatest least)

/-! ### The distinct symbols of a sequence -/

private theorem insertSymbol_mem (s t : Symbol) (found : List Symbol) : t ∈ insertSymbol s found ↔ t = s ∨ t ∈ found := by
  induction found with
  | nil => simp [insertSymbol]
  | cons u rest ih =>
    rw [insertSymbol]
    by_cases less : s.toNat < u.toNat
    · simp [less]
    · by_cases same : s = u
      · subst same
        simp
      · simp only [less, same, ↓reduceIte, List.mem_cons, ih]
        exact or_left_comm

private theorem insertSymbol_ascending (s : Symbol) {found : List Symbol}
    (ascending : found.Pairwise fun s t => s.toNat ≤ t.toNat) :
    (insertSymbol s found).Pairwise fun s t => s.toNat ≤ t.toNat := by
  induction found with
  | nil => simp [insertSymbol]
  | cons u rest ih =>
    obtain ⟨head, tail⟩ := List.pairwise_cons.mp ascending
    rw [insertSymbol]
    by_cases less : s.toNat < u.toNat
    · rw [if_pos less]
      refine List.pairwise_cons.mpr ⟨?_, ascending⟩
      intro t member
      rcases List.mem_cons.mp member with rfl | later
      · exact Nat.le_of_lt less
      · exact Nat.le_trans (Nat.le_of_lt less) (head t later)
    · by_cases same : s = u
      · rwa [if_neg less, if_pos same]
      · rw [if_neg less, if_neg same]
        refine List.pairwise_cons.mpr ⟨?_, ih tail⟩
        intro t member
        rcases (insertSymbol_mem s t rest).mp member with rfl | later
        · exact Nat.le_of_not_lt less
        · exact head t later

private theorem distinct_from (sequence : Sequence) (found : List Symbol)
    (ascending : found.Pairwise fun s t => s.toNat ≤ t.toNat) :
    (sequence.foldl (fun found s => insertSymbol s found) found).Pairwise (fun s t => s.toNat ≤ t.toNat) ∧
      ∀ t, t ∈ sequence.foldl (fun found s => insertSymbol s found) found ↔ t ∈ found ∨ t ∈ sequence := by
  induction sequence generalizing found with
  | nil => exact ⟨ascending, fun t => by simp⟩
  | cons s rest ih =>
    obtain ⟨sorted, members⟩ := ih (insertSymbol s found) (insertSymbol_ascending s ascending)
    refine ⟨sorted, fun t => ?_⟩
    rw [List.foldl_cons, members, insertSymbol_mem, List.mem_cons, or_assoc]
    exact or_left_comm

/-- The distinct symbols of a sequence ascend. -/
theorem distinct_ascending (sequence : Sequence) : Ascending (distinct sequence).toArray :=
  (distinct_from sequence [] .nil).1

/-- The distinct symbols of a sequence are its symbols. -/
theorem distinct_mem {sequence : Sequence} {s : Symbol} : s ∈ distinct sequence ↔ s ∈ sequence := by
  simpa [distinct] using (distinct_from sequence [] .nil).2 s

/-! ### The arrays of an index -/

private theorem offsets_from (ns : List Nat) (sum : Nat) (found : Array Nat) :
    ((ns.foldl (fun (sum, found) n => (sum + n, found.push sum)) (sum, found)).2).toList =
      found.toList ++ (List.range ns.length).map fun i => sum + (ns.take i).sum := by
  induction ns generalizing sum found with
  | nil => simp
  | cons n rest ih =>
    rw [List.foldl_cons, ih, List.length_cons, List.range_succ_eq_map]
    simp [Nat.add_assoc, Function.comp_def]

/-- The offset of a number is the sum of the numbers before it. -/
theorem offsets_read {ns : List Nat} {i : Nat} (inside : i < ns.length) : (offsets ns)[i]? = some (ns.take i).sum := by
  rw [← Array.getElem?_toList]
  simp [offsets, offsets_from, inside]

/-- A cell of one of some lists stands in all of them joined, behind the lists before its own. -/
theorem flatten_read {α : Type} {lists : List (List α)} {i j : Nat} {block : List α} {x : α}
    (at_i : lists[i]? = some block) (at_j : block[j]? = some x) :
    lists.flatten[((lists.map List.length).take i).sum + j]? = some x := by
  induction lists generalizing i with
  | nil => simp at at_i
  | cons first rest ih =>
    cases i with
    | zero =>
      cases at_i
      have inside := (List.getElem?_eq_some_iff.mp at_j).1
      simp [List.getElem?_append_left inside, at_j]
    | succ i =>
      have later := ih (by simpa using at_i)
      have behind : ((first.length :: rest.map List.length).take (i + 1)).sum + j =
          first.length + (((rest.map List.length).take i).sum + j) := by
        simp [Nat.add_assoc]
      rw [List.map_cons, behind, List.flatten_cons, List.getElem?_append_right (Nat.le_add_right _ _),
        Nat.add_sub_cancel_left]
      exact later

/-- The sorted keys of a list of rules. -/
def sortedKeys (rules : List (Symbol × Sequence)) : List Symbol :=
  (rules.map Prod.fst).mergeSort fun a b => a.toNat ≤ b.toNat

/-- The replacements of a list of rules in the order of the sorted keys. -/
def sortedReplacements (rules : List (Symbol × Sequence)) : List Sequence :=
  (sortedKeys rules).map fun key => (replacement? rules key).getD []

private theorem sortedKeys_ascending (rules : List (Symbol × Sequence)) : Ascending (ofRules rules).keys := by
  have sorted : (sortedKeys rules).Pairwise fun a b => decide (a.toNat ≤ b.toNat) = true :=
    List.pairwise_mergeSort
      (fun a b c ab bc => by simp only [decide_eq_true_eq] at *; omega)
      (fun a b => by simp only [Bool.or_eq_true, decide_eq_true_eq]; omega) (rules.map Prod.fst)
  simpa [Ascending, ofRules, sortedKeys] using sorted

private theorem keys_mem {rules : List (Symbol × Sequence)} {s : Symbol} :
    s ∈ (ofRules rules).keys ↔ ∃ replacement, replacement? rules s = some replacement := by
  have listed : s ∈ (ofRules rules).keys ↔ ∃ rule ∈ rules, rule.1 = s := by
    simp [ofRules, List.mem_mergeSort]
  rw [listed]
  simp only [replacement?, Option.map_eq_some_iff]
  constructor
  · rintro ⟨rule, member, rfl⟩
    have some_ : (rules.find? (·.1 == rule.1)).isSome := List.find?_isSome.mpr ⟨rule, member, by simp⟩
    obtain ⟨found, at_found⟩ := Option.isSome_iff_exists.mp some_
    exact ⟨found.2, found, at_found, rfl⟩
  · rintro ⟨_, rule, found, rfl⟩
    exact ⟨rule, List.mem_of_find?_eq_some found, by simpa using List.find?_some found⟩

/-! ### Slots -/

/-- The slot of a symbol, read off the rules. -/
def slotBy (rules : List (Symbol × Sequence)) (s : Symbol) : Slot where
  place := min (lowerBound (ofRules rules).keys s 0 (ofRules rules).keys.size) ((ofRules rules).keys.size - 1)
  ruled := (replacement? rules s).isSome
  count := (imageBy rules s).length

private theorem lengths_read {rules : List (Symbol × Sequence)} {i : Nat} {key : Symbol} (at_i : (ofRules rules).keys[i]? = some key) :
    (ofRules rules).lengths[i]? = some ((replacement? rules key).getD []).length := by
  have listed : (sortedKeys rules)[i]? = some key := by simpa [ofRules, sortedKeys] using at_i
  change ((sortedReplacements rules).map List.length).toArray[i]? = _
  simp [sortedReplacements, listed]

private theorem place_ruled {rules : List (Symbol × Sequence)} {s : Symbol} {replacement : Sequence}
    (found : replacement? rules s = some replacement) : (ofRules rules).keys[(slotBy rules s).place]? = some s := by
  have standing := lowerBound_found (sortedKeys_ascending rules) (keys_mem.mpr ⟨replacement, found⟩)
  have bound := (Array.getElem?_eq_some_iff.mp standing).1
  have same : (slotBy rules s).place = lowerBound (ofRules rules).keys s 0 (ofRules rules).keys.size := by
    simp only [slotBy]
    omega
  rw [same]
  exact standing

/-- The key at the place of a symbol is the symbol just if the symbol has a rule. -/
private theorem place_key {rules : List (Symbol × Sequence)} (some_ : rules ≠ []) (s : Symbol) :
    ∃ key, (ofRules rules).keys[(slotBy rules s).place]? = some key ∧ (key = s ↔ (replacement? rules s).isSome) := by
  have positive : 0 < (ofRules rules).keys.size := by
    have : 0 < rules.length := List.length_pos_iff.mpr some_
    simpa [ofRules] using this
  have inside : (slotBy rules s).place < (ofRules rules).keys.size := by
    simp only [slotBy]
    omega
  refine ⟨_, Array.getElem?_eq_getElem inside, ?_⟩
  constructor
  · intro same
    obtain ⟨replacement, found⟩ := keys_mem.mp (same ▸ Array.getElem_mem inside)
    simp [found]
  · intro ruled
    obtain ⟨replacement, found⟩ := Option.isSome_iff_exists.mp ruled
    have key := place_ruled found
    rwa [Array.getElem?_eq_getElem inside, Option.some_inj] at key

/-- With rules at all, looking a symbol up reads only places that are there, and its slot says whether
    it has a rule and how many cells it becomes. -/
theorem slot_total_correct {rules : List (Symbol × Sequence)} (some_ : rules ≠ []) (s : Symbol) :
    (ofRules rules).slot s = .ok (slotBy rules s) := by
  obtain ⟨key, at_place, ruled⟩ := place_key some_ s
  have length := lengths_read at_place
  have executed : (ofRules rules).slot s = .ok
      { place := (slotBy rules s).place, ruled := key == s,
        count := if key == s then ((replacement? rules key).getD []).length else 1 } := by
    change (readAt (ofRules rules).keys (slotBy rules s).place >>= fun key =>
      readAt (ofRules rules).lengths (slotBy rules s).place >>= fun length =>
        Except.ok (Slot.mk (slotBy rules s).place (key == s) (if key == s then length else 1))) = _
    simp only [readAt, at_place, length]
    rfl
  rw [executed]
  by_cases same : key = s
  · subst same
    obtain ⟨replacement, found⟩ := Option.isSome_iff_exists.mp (ruled.mp rfl)
    simp [slotBy, imageBy, found]
  · have absent : replacement? rules s = none := by simpa [same] using ruled
    simp [slotBy, imageBy, absent, same]

/-- The cells of the replacement of a ruled symbol stand in the flat array, from the start on that its
    slot leads to. -/
theorem flat_read {rules : List (Symbol × Sequence)} {s : Symbol} (ruled : (slotBy rules s).ruled = true) :
    ∃ start, (ofRules rules).starts[(slotBy rules s).place]? = some start ∧
      ∀ j x, (imageBy rules s)[j]? = some x → (ofRules rules).flat[start + j]? = some x := by
  obtain ⟨replacement, found⟩ := Option.isSome_iff_exists.mp ruled
  have listed : (sortedKeys rules)[(slotBy rules s).place]? = some s := by
    simpa [ofRules, sortedKeys] using place_ruled found
  have block : (sortedReplacements rules)[(slotBy rules s).place]? = some replacement := by
    simp [sortedReplacements, listed, found]
  have inside : (slotBy rules s).place < ((sortedReplacements rules).map List.length).length := by
    simpa using (List.getElem?_eq_some_iff.mp block).1
  refine ⟨_, offsets_read inside, ?_⟩
  intro j x at_j
  have cell : replacement[j]? = some x := by simpa [imageBy, found] using at_j
  change (sortedReplacements rules).flatten.toArray[_]? = some x
  rw [List.getElem?_toArray]
  exact flatten_read block cell

end Lindenmayer.Lookup
