import Lindenmayer.Proofs.Outcomes
import Lindenmayer.Colour.Pen

/-!
Texts that spell no colour. No name, digit, blank or separator of a spelling is a hyphen, so a hyphen stays
in what is left after any part of a spelling was read (`read_hyphen`), and a text with one in it is refused
whatever else it holds (`ofText_hyphen`), as that of a pen with a signed saturation (`colourText_signed`).
-/
namespace Lindenmayer.Spellings
open Outcomes Colour

/-- The sign of numbers below zero. -/
def hyphen : CodePoint := .ofNat 45

theorem lower_hyphen {s : Text} (member : hyphen ∈ s) : hyphen ∈ Text.lower s := by
  have own : Text.lowerOf hyphen = [hyphen] := by decide
  have behind (before : Text) : hyphen ∈ Text.lowerBehind before s := by
    induction s generalizing before with
    | nil => cases member
    | cons c rest ih =>
      rw [Text.lowerBehind]
      rcases List.mem_cons.mp member with here | later
      · have plain : ¬ hyphen = Text.capitalSigma := by decide
        rw [← here]
        simp [plain, own]
      · exact List.mem_append_right _ (ih later (c :: before))
  rw [Text.lower]
  by_cases sigma : s.contains Text.capitalSigma = true
  · rw [if_pos sigma]
    exact behind []
  · rw [if_neg sigma]
    exact List.mem_flatMap.mpr ⟨hyphen, member, own ▸ List.mem_cons_self⟩

theorem chomp_hyphen {s : Text} (member : hyphen ∈ s) : hyphen ∈ chomp s := by
  rw [chomp]
  cases reversed : s.reverse with
  | nil => simp [List.reverse_eq_nil_iff.mp reversed] at member
  | cons c rest =>
    dsimp only
    by_cases lineEnd : c.val = 10
    · rw [if_pos lineEnd]
      have other : hyphen ≠ c := fun same => absurd (same ▸ lineEnd) (by decide)
      have reached : hyphen ∈ c :: rest := reversed ▸ List.mem_reverse.mpr member
      exact List.mem_reverse.mpr ((List.mem_cons.mp reached).resolve_left other)
    · rw [if_neg lineEnd]
      exact member

theorem ofHex?_hyphen {s : Text} (member : hyphen ∈ s) : ofHex? s = none := by
  have digits : (s.mapM fun c => Text.hexDigit? c.val) = none := by
    induction s with
    | nil => cases member
    | cons c rest ih =>
      rw [List.mapM_cons]
      rcases List.mem_cons.mp member with here | later
      · have none_ : Text.hexDigit? hyphen.val = none := by decide
        rw [← here, none_]
        rfl
      · rw [ih later]
        cases Text.hexDigit? c.val with
        | none => rfl
        | some d => rfl
  rw [ofHex?, digits]
  rfl

/-! ### Parts of a call -/

theorem takeDigits_hyphen {s : Text} (member : hyphen ∈ s) : hyphen ∈ (Text.takeDigits Text.digit? s).2 := by
  induction s with
  | nil => cases member
  | cons c rest ih =>
    rw [Text.takeDigits]
    cases digit : Text.digit? c.val with
    | none => exact member
    | some d =>
      have other : hyphen ≠ c := by
        rintro rfl
        have none_ : Text.digit? hyphen.val = none := by decide
        rw [none_] at digit
        cases digit
      exact ih ((List.mem_cons.mp member).resolve_left other)

theorem after?_hyphen {code : Nat} {s rest : Text} (other : code ≠ 45) (found : after? code s = some rest) (member : hyphen ∈ s) :
    hyphen ∈ rest := by
  cases s with
  | nil => cases member
  | cons c tail =>
    rw [after?] at found
    by_cases here : c.val = code
    · rw [if_pos here] at found
      cases found
      refine (List.mem_cons.mp member).resolve_left fun same => other ?_
      rw [← here, ← same]
      decide
    · rw [if_neg here] at found
      cases found

theorem trimStart_hyphen {s : Text} (member : hyphen ∈ s) : hyphen ∈ Text.trimStart s := by
  induction s with
  | nil => cases member
  | cons c rest ih =>
    rw [Text.trimStart, Text.dropAtStart, List.dropWhile_cons]
    by_cases blank : Text.isBlank c.val = true
    · rw [if_pos blank]
      refine ih ((List.mem_cons.mp member).resolve_left fun same => ?_)
      exact absurd (same ▸ blank) (by decide)
    · rw [if_neg blank]
      exact member

private theorem percent_hyphen {kind : Argument} {a amount : Amount} {tail rest : Text} (remains : hyphen ∈ tail)
    (found : (if kind.isPercent then do return (a, ← after? 37 tail) else return (a, tail)) = some (amount, rest)) :
    hyphen ∈ rest := by
  by_cases percent : kind.isPercent = true
  · rw [if_pos percent] at found
    obtain ⟨last, sign, found⟩ := Option.bind_eq_some_iff.mp found
    cases found
    exact after?_hyphen (by decide) sign remains
  · rw [if_neg percent] at found
    cases found
    exact remains

/-- Reading an argument leaves the hyphen for what comes after it. -/
theorem read_hyphen {kind : Argument} {s rest : Text} {amount : Amount} (found : kind.read? s = some (amount, rest))
    (member : hyphen ∈ s) : hyphen ∈ rest := by
  rw [Argument.read?] at found
  have left := takeDigits_hyphen member
  cases taken : Text.takeDigits Text.digit? s with
  | mk before behind =>
    rw [taken] at found left
    dsimp only at found left
    by_cases none_ : before.isEmpty = true
    · rw [if_pos none_] at found
      cases found
    · rw [if_neg none_] at found
      cases point : (if kind.pointed then after? 46 behind else none) with
      | none =>
        rw [point] at found
        exact percent_hyphen left found
      | some tail =>
        have pointed : after? 46 behind = some tail := by
          by_cases kinds : kind.pointed = true
          · rwa [if_pos kinds] at point
          · rw [if_neg kinds] at point
            cases point
        rw [point] at found
        exact percent_hyphen (takeDigits_hyphen (after?_hyphen (by decide) pointed left)) found

theorem arguments_hyphen {kinds : List Argument} {s : Text} (member : hyphen ∈ s) : arguments? kinds s = none := by
  induction kinds generalizing s with
  | nil => rfl
  | cons kind more ih =>
    rw [arguments?]
    cases read : kind.read? (Text.trimStart s) with
    | none => rfl
    | some found =>
      obtain ⟨amount, rest⟩ := found
      have remains := trimStart_hyphen (read_hyphen read (trimStart_hyphen member))
      cases more with
      | nil =>
        cases closed : after? 41 (Text.trimStart rest) with
        | none => simp [closed]
        | some tail =>
          have remains := after?_hyphen (by decide) closed remains
          have open_ : tail ≠ [] := List.ne_nil_of_mem remains
          simp [closed, open_]
      | cons next later =>
        cases comma : after? 44 (Text.trimStart rest) with
        | none => simp [comma]
        | some tail => simp [comma, ih (after?_hyphen (by decide) comma remains)]

theorem call_hyphen {function : String} {kinds : List Argument} {s : Text}
    (plain : hyphen ∉ Text.ofString (function ++ "(")) (member : hyphen ∈ s) : call? function kinds s = none := by
  rw [call?]
  by_cases begins : (Text.ofString (function ++ "(")).isPrefixOf s = true
  · simp only [begins, ↓reduceIte]
    obtain ⟨rest, rfl⟩ := List.isPrefixOf_iff_prefix.mp begins
    have remains := (List.mem_append.mp member).resolve_left plain
    rw [List.drop_left]
    exact arguments_hyphen remains
  · simp only [begins, Bool.false_eq_true, ↓reduceIte]

variable {K : Type} [Scalar K]

variable (K) in
theorem ofCall_hyphen {s : Text} (member : hyphen ∈ s) : ofCall K s = .ok none := by
  have uncalled (entry : String × List Argument × Maker) (listed : entry ∈ functions K) :
      (call? entry.1 entry.2.1 s).map entry.2.2 = none := by
    have named : entry.1 ∈ ["rgb", "rgb", "hsl", "hsv", "hsb", "rgba"] := List.mem_map_of_mem (f := Prod.fst) listed
    have plain : ∀ name ∈ ["rgb", "rgb", "hsl", "hsv", "hsb", "rgba"], hyphen ∉ Text.ofString (name ++ "(") := by decide
    rw [call_hyphen (plain _ named) member]
    rfl
  rw [ofCall, List.findSome?_eq_none_iff.mpr fun entry listed => uncalled entry listed]

variable (K) in
/-- A text with a hyphen in it spells no colour. -/
theorem ofText_hyphen {s : Text} (member : hyphen ∈ s) : ∃ failure, Colour.ofText K s = .error failure := by
  have lowered := lower_hyphen member
  have body := chomp_hyphen lowered
  have unnamed : (names.find? fun entry => (Text.lower s).isString entry.1) = none := by
    refine List.find?_eq_none.mpr fun entry listed named => ?_
    have same : Text.lower s = Text.ofString entry.1 := by simpa [Text.isString] using named
    rw [same] at lowered
    have plain : ∀ entry ∈ names, hyphen ∉ Text.ofString entry.1 := by decide
    exact plain entry listed lowered
  have unhashed : (after? 35 (chomp (Text.lower s))).bind ofHex? = none := by
    cases found : after? 35 (chomp (Text.lower s)) with
    | none => rfl
    | some rest => exact ofHex?_hyphen (after?_hyphen (by decide) found body)
  rw [Colour.ofText]
  by_cases long : longest < s.length
  · exact ⟨_, if_pos long⟩
  · rw [if_neg long]
    simp only [unnamed, unhashed, ofCall_hyphen K body]
    exact ⟨_, rfl⟩

/-- A saturation or a brightness that is written with a sign makes no colour. -/
theorem colourText_signed (hue : K) {saturation brightness : K}
    (signed : '-' ∈ Scalar.fixed 3 (Scalar.clampUnit saturation * Scalar.ofInt 100) ∨
      '-' ∈ Scalar.fixed 3 (Scalar.clampUnit brightness * Scalar.ofInt 100)) :
    ∃ failure, Pen.colourText hue saturation brightness = .error failure := by
  have sign : Text.ofChar '-' = hyphen := by decide
  have written : hyphen ∈ Pen.hsvText hue saturation brightness := by
    rw [← sign]
    refine List.mem_map_of_mem ?_
    rcases signed with inside | inside
    · simp [inside]
    · simp [inside]
  obtain ⟨failure, refused⟩ := ofText_hyphen K written
  exact ⟨failure, by rw [Pen.colourText, refused]; rfl⟩

end Lindenmayer.Spellings
