import Lindenmayer.Storage.Path
import Lindenmayer.Text.Case
import Mathlib.Data.List.DropRight
import Mathlib.Data.List.Forall2
import Mathlib.Data.List.TakeWhile

/-!
Names in a directory. A name without slashes that is put behind a directory is the last part of the path, whatever
the directory is (`baseName_join`, `normalize_join`). The extension of such a name is what is behind its last point, and
something but points is before it (`extension_split`); it is in lower case a text of plain letters just if it is
spelled with those letters or their capitals (`lower_letters`).
-/
namespace Lindenmayer.Paths

/-! ### Names without slashes -/

/-- A text in which no slash is. -/
def Single (name : Text) : Prop := ∀ c ∈ name, Path.isSlash c = false

/-- What a name is put behind in a path: nothing, or a text that ends in a slash. -/
def Front (front : Text) : Prop := front = [] ∨ ∃ directory slash, front = directory ++ [slash] ∧ Path.isSlash slash = true

theorem baseName_single {name : Text} : Path.baseName name = name ↔ Single name := by
  have suffix : Path.baseName name = name.rtakeWhile fun c => !Path.isSlash c := rfl
  rw [suffix, List.rtakeWhile_eq_self_iff]
  simp [Single]

theorem join_front (directory name : Text) : ∃ front, Front front ∧ Path.join directory name = front ++ name ∧
    (front = directory ∨ directory ≠ [] ∧ front = directory ++ [Text.ofChar '/']) := by
  rw [Path.join]
  split
  · rename_i ends
    refine ⟨directory, ?_, rfl, .inl rfl⟩
    rcases Bool.or_eq_true_iff.mp ends with empty | ends
    · exact .inl (List.isEmpty_iff.mp empty)
    · rcases List.eq_nil_or_concat' directory with rfl | ⟨before, last, rfl⟩
      · exact .inl rfl
      · refine .inr ⟨before, last, rfl, ?_⟩
        simpa [Path.endsInSlash] using ends
  · rename_i open_
    have some_ : directory ≠ [] := by
      rintro rfl
      exact open_ rfl
    exact ⟨directory ++ [Text.ofChar '/'], .inr ⟨directory, _, rfl, rfl⟩, by simp, .inr ⟨some_, rfl⟩⟩

theorem baseName_front {front name : Text} (prefixed : Front front) (single : Single name) : Path.baseName (front ++ name) = name := by
  have whole : ∀ c ∈ name.reverse, (!Path.isSlash c) = true := by simpa [Single] using single
  rw [Path.baseName, List.reverse_append, List.takeWhile_append_of_pos whole]
  rcases prefixed with rfl | ⟨directory, slash, rfl, is_slash⟩
  · simp
  · simp [is_slash]

theorem baseName_join (directory : Text) {name : Text} (single : Single name) : Path.baseName (Path.join directory name) = name := by
  obtain ⟨front, prefixed, joined, -⟩ := join_front directory name
  rw [joined, baseName_front prefixed single]

/-! ### Parts -/

theorem parts_some (path : Text) : ∃ first more, Path.parts path = first :: more := by
  cases path with
  | nil => exact ⟨_, _, rfl⟩
  | cons c rest =>
    rw [Path.parts]
    split
    · exact ⟨_, _, rfl⟩
    · split <;> exact ⟨_, _, rfl⟩

theorem parts_single {name : Text} (single : Single name) : Path.parts name = [name] := by
  induction name with
  | nil => rfl
  | cons c rest ih =>
    obtain ⟨plain, later⟩ := List.forall_mem_cons.mp single
    rw [Path.parts, plain, ih later]
    rfl

theorem parts_append_slash (directory : Text) {slash : CodePoint} (is_slash : Path.isSlash slash = true) (name : Text) :
    Path.parts (directory ++ slash :: name) = Path.parts directory ++ Path.parts name := by
  induction directory with
  | nil => simp [Path.parts, is_slash]
  | cons c rest ih =>
    rw [List.cons_append, Path.parts, Path.parts, ih]
    cases Path.isSlash c with
    | true => rfl
    | false =>
      obtain ⟨first, more, some_⟩ := parts_some rest
      rw [some_]
      rfl

/-! ### Where a path leads by its parts -/

/-- One part further. -/
def enter (place : List Text) (part : Text) : List Text :=
  if Path.isHere part then place
  else if Path.isAbove part then place.dropLast
  else place ++ [part]

/-- Where a path starts from. -/
def origin (here : List Text) (path : Text) : List Text := if Path.isAbsolute path then [] else here

theorem normalize_enter (here : List Text) (path : Text) :
    Path.normalize here path = (Path.parts path).foldl enter (origin here path) := rfl

/-- A slash at the end of a path leads no further. -/
theorem normalize_slash (here : List Text) {path : Text} (some_ : path ≠ []) {slash : CodePoint}
    (is_slash : Path.isSlash slash = true) : Path.normalize here (path ++ [slash]) = Path.normalize here path := by
  obtain ⟨c, rest, rfl⟩ := List.exists_cons_of_ne_nil some_
  rw [normalize_enter, parts_append_slash _ is_slash, List.foldl_append]
  rfl

/-- A name behind a directory leads into the directory that the path in front of it leads to. -/
theorem normalize_join (here : List Text) (directory : Text) {name : Text} (single : Single name) (named : name ≠ []) :
    Path.normalize here (Path.join directory name) = enter (Path.normalize here directory) name := by
  have behind {front : Text} (prefixed : Front front) :
      Path.normalize here (front ++ name) = enter (Path.normalize here front) name := by
    rcases prefixed with rfl | ⟨before, slash, rfl, is_slash⟩
    · obtain ⟨c, rest, rfl⟩ := List.exists_cons_of_ne_nil named
      have relative : Path.isAbsolute (c :: rest) = false := single c List.mem_cons_self
      rw [List.nil_append, normalize_enter, parts_single single, origin, relative]
      rfl
    · have same : origin here (before ++ slash :: name) = origin here (before ++ [slash]) := by
        cases before with
        | nil | cons => rfl
      rw [List.append_assoc, List.singleton_append, normalize_enter, normalize_enter, parts_append_slash _ is_slash,
        parts_append_slash _ is_slash, parts_single single, List.foldl_append, List.foldl_append, same]
      rfl
  obtain ⟨front, prefixed, joined, same⟩ := join_front directory name
  rw [joined, behind prefixed]
  rcases same with rfl | ⟨some_, rfl⟩
  · rfl
  · rw [normalize_slash here some_ rfl]

/-- A path to a name has no slash at its end. -/
theorem withoutEnd_join {directory name : Text} (single : Single name) (named : name ≠ []) :
    Path.withoutEnd (Path.join directory name) = Path.join directory name := by
  obtain ⟨front, -, joined, -⟩ := join_front directory name
  rcases List.eq_nil_or_concat' name with rfl | ⟨init, last, rfl⟩
  · exact absurd rfl named
  · have plain : Path.isSlash last = false := single last (by simp)
    simp [joined, Path.withoutEnd, plain]

/-! ### Extensions -/

/-- The point before an extension. -/
def point : CodePoint := Text.ofChar '.'

theorem extension_split {path : Text} (extended : Path.extension path ≠ []) :
    ∃ stem, Path.baseName path = stem ++ point :: Path.extension path ∧ ∃ c ∈ stem, c ≠ point := by
  generalize behind_eq : ((Path.baseName path).reverse.takeWhile fun c => c.val != 46).reverse = behind
  generalize before_eq : ((Path.baseName path).reverse.dropWhile fun c => c.val != 46).reverse = before
  have whole : Path.baseName path = before ++ behind := by
    rw [← behind_eq, ← before_eq, ← List.reverse_append, List.takeWhile_append_dropWhile, List.reverse_reverse]
  have unfolded : Path.extension path = if before.any (fun c => c.val != 46) then behind else [] := by
    rw [Path.extension, behind_eq]
    simp only [whole, List.length_append, Nat.add_sub_cancel, List.take_left]
  by_cases stemmed : before.any (fun c => c.val != 46) = true
  · rw [unfolded, if_pos stemmed]
    -- What is before the extension ends in the point that was looked for.
    cases found : (Path.baseName path).reverse.dropWhile fun c => c.val != 46 with
    | nil =>
      rw [found] at before_eq
      rw [← before_eq] at stemmed
      cases stemmed
    | cons c rest =>
      have dotted : c.val = 46 := by
        have first := List.head?_dropWhile_not (fun c : CodePoint => c.val != 46) (Path.baseName path).reverse
        rw [found] at first
        simpa using first
      have same : c = point := Fin.ext dotted
      rw [found, List.reverse_cons, same] at before_eq
      refine ⟨rest.reverse, ?_, ?_⟩
      · rw [whole, ← before_eq, List.append_assoc, List.singleton_append]
      · rw [← before_eq] at stemmed
        obtain ⟨d, member, other⟩ := List.any_eq_true.mp stemmed
        rcases List.mem_append.mp member with early | late
        · refine ⟨d, early, ?_⟩
          rintro rfl
          cases other
        · rw [List.mem_singleton.mp late] at other
          cases other
  · rw [unfolded, if_neg stemmed] at extended
    exact absurd rfl extended

/-! ### Letters in either case -/

/-- A letter that no code point but itself and its capital has as its lower case. -/
def Plain (l : CodePoint) : Prop := 97 ≤ l.val ∧ l.val ≤ 122 ∧ l.val ≠ 105 ∧ l.val ≠ 107

instance : DecidablePred Plain := fun l => inferInstanceAs (Decidable (97 ≤ l.val ∧ l.val ≤ 122 ∧ l.val ≠ 105 ∧ l.val ≠ 107))

/-- A code point is a letter or its capital. -/
def Spells (c l : CodePoint) : Prop := c = l ∨ c.val + 32 = l.val

/-- Beyond ASCII only the sign of the unit kelvin has a letter of ASCII as its counterpart. -/
theorem lowerRuns_apart : ∀ run ∈ Text.lowerRuns.toList, 128 ≤ run.last →
    128 ≤ (run.first : Int) ∧ (122 < (run.first : Int) + run.shift ∧ (run.last : Int) + run.shift < 0x110000 ∨
      run.first = run.last ∧ (run.first : Int) + run.shift = 107) := by
  decide +kernel

theorem counterpart_apart {c l : CodePoint} (beyond : 128 ≤ c.val) (plain : Plain l) : Text.counterpart Text.lowerRuns c ≠ l := by
  obtain ⟨low, high, -, other⟩ := plain
  intro same
  have value := congrArg Fin.val same
  rw [Text.counterpart] at value
  cases found : Text.lowerRuns.find? (·.covers c.val) with
  | none =>
    simp only [found] at value
    omega
  | some run =>
    have covered := Array.find?_some found
    simp only [Text.CaseRun.covers, Bool.and_eq_true, decide_eq_true_eq] at covered
    have apart := lowerRuns_apart run (Array.mem_toList_iff.mpr (Array.mem_of_find?_eq_some found)) (by omega)
    simp only [found, CodePoint.ofNat] at value
    omega

theorem lowerOf_plain {c l : CodePoint} {rest : Text} (plain : Plain l) (lowered : Text.lowerOf c = l :: rest) :
    Spells c l ∧ rest = [] := by
  have ⟨low, high, dotless, _⟩ := plain
  rw [Text.lowerOf] at lowered
  split at lowered
  · rename_i small
    obtain ⟨first, later⟩ := List.cons.inj lowered
    refine ⟨?_, later.symm⟩
    have value := congrArg Fin.val first
    by_cases capital : 65 ≤ c.val ∧ c.val ≤ 90
    · simp only [capital, decide_true, Bool.and_true, ↓reduceIte, CodePoint.ofNat] at value
      exact .inr (by omega)
    · simp only [← Bool.decide_and, capital, decide_false, Bool.false_eq_true, ↓reduceIte] at value
      exact .inl (Fin.ext value)
  · rename_i beyond
    split at lowered
    · have first := congrArg Fin.val (List.cons.inj lowered).1
      simp only [CodePoint.ofNat] at first
      omega
    · exact absurd (List.cons.inj lowered).1 (counterpart_apart (Nat.le_of_not_lt beyond) plain)

theorem lowerOf_some (c : CodePoint) : ∃ l rest, Text.lowerOf c = l :: rest := by
  rw [Text.lowerOf]
  split
  · exact ⟨_, _, rfl⟩
  · split <;> exact ⟨_, _, rfl⟩

/-- What stands for one code point in a lower case of plain letters is one letter, and no sigma at an end. -/
theorem piece_plain {c : CodePoint} {piece : Text} (made : piece = [.ofNat 0x3C2] ∨ piece = Text.lowerOf c)
    (plain : ∀ l ∈ piece, Plain l) : ∃ l, piece = [l] ∧ Spells c l := by
  rcases made with rfl | rfl
  · have sigma := (plain _ List.mem_cons_self).2.1
    simp only [CodePoint.ofNat] at sigma
    omega
  · obtain ⟨l, rest, some_⟩ := lowerOf_some c
    obtain ⟨spelled, rfl⟩ := lowerOf_plain (plain l (some_ ▸ List.mem_cons_self)) some_
    exact ⟨l, some_, spelled⟩

theorem lowerBehind_letters {before s : Text} (plain : ∀ l ∈ Text.lowerBehind before s, Plain l) :
    List.Forall₂ Spells s (Text.lowerBehind before s) := by
  induction s generalizing before with
  | nil => exact .nil
  | cons c rest ih =>
    rw [Text.lowerBehind] at plain ⊢
    obtain ⟨here, later⟩ := List.forall_mem_append.mp plain
    obtain ⟨l, piece, spelled⟩ := piece_plain (c := c) (by split <;> simp) here
    rw [piece]
    exact .cons spelled (ih later)

theorem lower_letters {s : Text} (plain : ∀ l ∈ Text.lower s, Plain l) : List.Forall₂ Spells s (Text.lower s) := by
  rw [Text.lower] at plain ⊢
  split
  · rename_i sigma
    rw [if_pos sigma] at plain
    exact lowerBehind_letters plain
  · rename_i other
    rw [if_neg other] at plain
    clear other
    induction s with
    | nil => exact .nil
    | cons c rest ih =>
      rw [List.flatMap_cons] at plain ⊢
      obtain ⟨here, later⟩ := List.forall_mem_append.mp plain
      obtain ⟨l, piece, spelled⟩ := piece_plain (.inr rfl) here
      rw [piece]
      exact .cons spelled (ih later)

end Lindenmayer.Paths
