import Mathlib.Algebra.Order.Group.Nat
import Mathlib.Data.List.Basic
import Lindenmayer.Colour.Pen

/-!
The spelling of a pen's colour, read back. A number with three places is read as the number of thousandths
that it was written from (`read_spelled`), and the spelling of a hue, a saturation and a value is no name, no
row of hexadecimal digits and no call of another function, so those three are what it is read as
(`hsvSpelled_read`).
-/
namespace Lindenmayer.Reading
open Colour

/-! ### Digits -/

/-- What a digit stands for. -/
def digitOf (c : Char) : Nat := c.toNat - 48

theorem digit_range {c : Char} (digit : c.isDigit = true) : 48 ≤ c.toNat ∧ c.toNat ≤ 57 := by
  simpa [Char.isDigit, UInt32.le_iff_toNat_le] using digit

theorem digit?_ofChar {c : Char} (digit : c.isDigit = true) : Text.digit? (Text.ofChar c).val = some (digitOf c) := by
  have range := digit_range digit
  have read := Text.digit?_ascii ⟨digitOf c, by rw [digitOf]; omega⟩
  have same : 48 + digitOf c = (Text.ofChar c).val := by
    change 48 + (c.toNat - 48) = c.toNat
    omega
  rwa [← same]

/-- Digits are read up to what is none. -/
theorem takeDigits_digits {ds : List Char} (digits : ∀ c ∈ ds, c.isDigit = true) {rest : Text}
    (ends : ∀ c ∈ rest.head?, Text.digit? c.val = none) :
    Text.takeDigits Text.digit? (ds.map Text.ofChar ++ rest) = (ds.map digitOf, rest) := by
  induction ds with
  | nil =>
    cases rest with
    | nil => rfl
    | cons c rest =>
      have none_ : Text.digit? c.val = none := ends c rfl
      change Text.takeDigits Text.digit? (c :: rest) = ([], c :: rest)
      rw [Text.takeDigits, none_]
  | cons c ds ih =>
    have first := digit?_ofChar (digits c List.mem_cons_self)
    have later := ih fun d member => digits d (List.mem_cons_of_mem _ member)
    change Text.takeDigits Text.digit? (Text.ofChar c :: (ds.map Text.ofChar ++ rest)) = _
    rw [Text.takeDigits, first]
    dsimp only
    rw [later]
    rfl

theorem ofDigits_digitOf (ds : List Char) : Text.ofDigits (ds.map digitOf) = Nat.ofDigitChars 10 ds 0 := by
  rw [Text.ofDigits, Text.ofDigitsIn, List.foldl_map, Nat.ofDigitChars_eq_foldl]
  rfl

/-! ### Numbers with three places -/

theorem digits_isDigit {n : Nat} {c : Char} (member : c ∈ Decimal.digits n) : c.isDigit = true :=
  Nat.isDigit_of_mem_toDigits (by decide) (by decide) member

theorem padLeft_isDigit {width n : Nat} {c : Char} (member : c ∈ Decimal.padLeft width (Decimal.digits n)) : c.isDigit = true := by
  rcases List.mem_append.mp member with zero | digit
  · rw [List.eq_of_mem_replicate zero]
    rfl
  · exact digits_isDigit digit

theorem thousandths_length (n : Nat) : (Decimal.padLeft 3 (Decimal.digits (n % 1000))).length = 3 := by
  have few : (Decimal.digits (n % 1000)).length ≤ 3 := (Nat.length_toDigits_le_iff (by decide) (by decide)).mpr (by omega)
  rw [Decimal.padLeft, List.length_append, List.length_replicate]
  omega

/-- The digits before and behind the point are those of the number of thousandths. -/
theorem ofDigits_thousandths (n : Nat) : Text.ofDigits ((Decimal.digits (n / 1000)).map digitOf ++
    (Decimal.padLeft 3 (Decimal.digits (n % 1000))).map digitOf) = n := by
  rw [← List.map_append, ofDigits_digitOf, Nat.ofDigitChars_append, Nat.ofDigitChars_eq_ofDigitChars_zero, thousandths_length,
    Decimal.padLeft, Nat.ofDigitChars_append, Nat.ofDigitChars_replicate_zero, Nat.mul_zero, Decimal.digits, Decimal.digits,
    Nat.ofDigitChars_ten_toDigits, Nat.ofDigitChars_ten_toDigits]
  omega

/-- The text of so many thousandths. -/
def spelled (n : Nat) : Text := (Decimal.pointed 3 n).map Text.ofChar

theorem spelled_parts (n : Nat) : spelled n = (Decimal.digits (n / 1000)).map Text.ofChar ++
    (Text.ofChar '.' :: (Decimal.padLeft 3 (Decimal.digits (n % 1000))).map Text.ofChar) := by
  change (Decimal.digits (n / 1000) ++ '.' :: Decimal.padLeft 3 (Decimal.digits (n % 1000))).map Text.ofChar = _
  rw [List.map_append, List.map_cons]

/-- An argument that may have a point is read from the text of a number of thousandths. -/
theorem read_spelled {kind : Argument} (pointed : kind.pointed = true) (n : Nat) {rest : Text}
    (ends : ∀ c ∈ rest.head?, Text.digit? c.val = none) :
    kind.read? (spelled n ++ rest) = if kind.isPercent then (after? 37 rest).map fun rest => (⟨n, 3⟩, rest) else some (⟨n, 3⟩, rest) := by
  have whole (behind : Text) : Text.takeDigits Text.digit? ((Decimal.digits (n / 1000)).map Text.ofChar ++ Text.ofChar '.' :: behind) =
      ((Decimal.digits (n / 1000)).map digitOf, Text.ofChar '.' :: behind) := by
    refine takeDigits_digits (fun c member => digits_isDigit member) fun c first => ?_
    obtain rfl := Option.some_inj.mp first
    decide
  have places : Text.takeDigits Text.digit? ((Decimal.padLeft 3 (Decimal.digits (n % 1000))).map Text.ofChar ++ rest) =
      ((Decimal.padLeft 3 (Decimal.digits (n % 1000))).map digitOf, rest) :=
    takeDigits_digits (fun c member => padLeft_isDigit member) ends
  have some_ : ((Decimal.digits (n / 1000)).map digitOf).isEmpty = false := by
    rw [List.isEmpty_map, List.isEmpty_eq_false_iff]
    exact Nat.toDigits_ne_nil
  have point (tail : Text) : after? 46 (Text.ofChar '.' :: tail) = some tail := rfl
  rw [spelled_parts, List.append_assoc, List.cons_append, Argument.read?, whole]
  dsimp only
  rw [if_neg (by rw [some_]; decide), if_pos pointed, point]
  dsimp only
  rw [places]
  dsimp only
  rw [ofDigits_thousandths, List.length_map, thousandths_length]
  cases kind.isPercent with
  | true => cases after? 37 rest <;> rfl
  | false => rfl

/-- No blank stands before a number. -/
theorem trimStart_spelled (n : Nat) (rest : Text) : Text.trimStart (spelled n ++ rest) = spelled n ++ rest := by
  rw [spelled_parts, List.append_assoc]
  cases written : Decimal.digits (n / 1000) with
  | nil => exact absurd written Nat.toDigits_ne_nil
  | cons c ds =>
    have digit : c.isDigit = true := digits_isDigit (n := n / 1000) (written ▸ List.mem_cons_self)
    have range := digit_range digit
    have dark : Text.isBlank (Text.ofChar c).val = false := by
      have each : ∀ d < 10, Text.isBlank (48 + d) = false := by decide
      have same : (Text.ofChar c).val = 48 + (c.toNat - 48) := by
        change c.toNat = _
        omega
      rw [same]
      exact each _ (by omega)
    rw [List.map_cons, List.cons_append, Text.trimStart, Text.dropAtStart, List.dropWhile_cons_of_neg (by rw [dark]; decide)]

/-! ### The spelling of a hue -/

/-- The text of a hue, a saturation and a value in thousandths. -/
def hsvSpelled (h s v : Nat) : Text :=
  Text.ofString "hsv(" ++ (spelled h ++ (Text.ofString "," ++ (spelled s ++ (Text.ofString "%," ++ (spelled v ++ Text.ofString "%)")))))

theorem spelled_length {n : Nat} (size : n ≤ 2 ^ 13 * 10 ^ 3) : (spelled n).length ≤ 8 := by
  have few : (Decimal.digits (n / 1000)).length ≤ 4 := (Nat.length_toDigits_le_iff (by decide) (by decide)).mpr (by omega)
  rw [spelled_parts, List.length_append, List.length_cons, List.length_map, List.length_map, thousandths_length]
  omega

theorem hsvSpelled_short {h s v : Nat} (hue : h ≤ 2 ^ 13 * 10 ^ 3) (saturation : s ≤ 2 ^ 13 * 10 ^ 3) (value : v ≤ 2 ^ 13 * 10 ^ 3) :
    (hsvSpelled h s v).length ≤ longest := by
  have one := spelled_length hue
  have two := spelled_length saturation
  have three := spelled_length value
  have fixed : (Text.ofString "hsv(").length = 4 ∧ (Text.ofString ",").length = 1 ∧ (Text.ofString "%,").length = 2 ∧
    (Text.ofString "%)").length = 2 := by decide
  simp only [hsvSpelled, List.length_append, longest]
  omega

/-- An argument before others ends in a comma, behind its percent sign if it has one. -/
private theorem argument_before {kind next : Argument} {more : List Argument} (pointed : kind.pointed = true) (n : Nat) (rest : Text) :
    arguments? (kind :: next :: more) (spelled n ++ (Text.ofString (if kind.isPercent then "%," else ",") ++ rest)) =
      (arguments? (next :: more) rest).map (⟨n, 3⟩ :: ·) := by
  have ends : ∀ c ∈ (Text.ofString (if kind.isPercent then "%," else ",") ++ rest).head?, Text.digit? c.val = none := by
    intro c first
    cases kind <;> obtain rfl := Option.some_inj.mp first <;> decide
  rw [arguments?, trimStart_spelled, read_spelled pointed n ends]
  have read : (do return (⟨n, 3⟩ : Amount) :: (← arguments? (next :: more) rest)) = (arguments? (next :: more) rest).map (⟨n, 3⟩ :: ·) := by
    cases arguments? (next :: more) rest <;> rfl
  cases kind with
  | integer | percent => cases pointed
  | decimal | decimalPercent => exact read

/-- The last argument ends in a percent sign and the parenthesis. -/
private theorem argument_last (n : Nat) : arguments? [.decimalPercent] (spelled n ++ Text.ofString "%)") = some [⟨n, 3⟩] := by
  have ends : ∀ c ∈ (Text.ofString "%)").head?, Text.digit? c.val = none := by
    intro c first
    obtain rfl := Option.some_inj.mp first
    decide
  rw [arguments?, trimStart_spelled, read_spelled rfl n ends]
  rfl

theorem hsvSpelled_arguments (h s v : Nat) : call? "hsv" [.decimal, .decimalPercent, .decimalPercent] (hsvSpelled h s v) =
    some [⟨h, 3⟩, ⟨s, 3⟩, ⟨v, 3⟩] := by
  have begins : (Text.ofString ("hsv" ++ "(")).isPrefixOf (hsvSpelled h s v) = true :=
    List.isPrefixOf_iff_prefix.mpr (List.prefix_append _ _)
  rw [call?]
  simp only [begins, ↓reduceIte]
  change arguments? _ ((Text.ofString "hsv(" ++ _).drop (Text.ofString "hsv(").length) = _
  have hue (rest : Text) : arguments? [.decimal, .decimalPercent, .decimalPercent] (spelled h ++ (Text.ofString "," ++ rest)) =
      (arguments? [.decimalPercent, .decimalPercent] rest).map (⟨h, 3⟩ :: ·) := argument_before rfl h rest
  have saturation (rest : Text) : arguments? [.decimalPercent, .decimalPercent] (spelled s ++ (Text.ofString "%," ++ rest)) =
      (arguments? [.decimalPercent] rest).map (⟨s, 3⟩ :: ·) := argument_before rfl s rest
  rw [List.drop_left, hue, saturation, argument_last]
  rfl

variable (K : Type) [Scalar K]

/-- Only the function of that name takes the text. -/
theorem hsvSpelled_call (h s v : Nat) : ofCall K (hsvSpelled h s v) = makeHsv K [⟨h, 3⟩, ⟨s, 3⟩, ⟨v, 3⟩] := by
  have other (name : String) (kinds : List Argument) (different : (Text.ofString (name ++ "(")).take 3 ≠ Text.ofString "hsv")
      (long : 3 ≤ (Text.ofString (name ++ "(")).length) : call? name kinds (hsvSpelled h s v) = none := by
    have begins : ¬ (Text.ofString (name ++ "(")).isPrefixOf (hsvSpelled h s v) = true := by
      intro begins
      obtain ⟨rest, same⟩ := List.isPrefixOf_iff_prefix.mp begins
      refine different ?_
      have front : (Text.ofString (name ++ "(") ++ rest).take 3 = (Text.ofString (name ++ "(")).take 3 :=
        List.take_append_of_le_length long
      rw [← front, same]
      rfl
    rw [call?]
    simp only [begins, Bool.false_eq_true, ↓reduceIte]
  rw [ofCall, functions]
  simp only [List.findSome?_cons, other "rgb" _ (by decide) (by decide), other "hsl" _ (by decide) (by decide),
    hsvSpelled_arguments, Option.map_none, Option.map_some]

/-- A code point that is in lower case. -/
def Lowered (c : CodePoint) : Prop := Text.lowerOf c = [c] ∧ c ≠ Text.capitalSigma

instance (c : CodePoint) : Decidable (Lowered c) := inferInstanceAs (Decidable (_ ∧ _))

theorem lower_lowered {s : Text} (lowered : ∀ c ∈ s, Lowered c) : Text.lower s = s := by
  rw [Text.lower_eq_flatMap fun member => (lowered _ member).2 rfl]
  calc s.flatMap Text.lowerOf = s.flatMap fun c => [c] := List.flatMap_congr fun c member => (lowered c member).1
    _ = s := List.flatMap_singleton' _

theorem spelled_lowered {n : Nat} {c : CodePoint} (member : c ∈ spelled n) : Lowered c := by
  have each : ∀ d < 10, Lowered (.ofNat (48 + d)) := by decide
  have digit {c : Char} (digit : c.isDigit = true) : Lowered (Text.ofChar c) := by
    have range := digit_range digit
    have same : Text.ofChar c = .ofNat (48 + (c.toNat - 48)) := by
      refine Fin.ext ?_
      change c.toNat = (48 + (c.toNat - 48)) % 0x110000
      omega
    rw [same]
    exact each _ (by omega)
  rw [spelled_parts] at member
  rcases List.mem_append.mp member with whole | places
  · obtain ⟨d, listed, rfl⟩ := List.mem_map.mp whole
    exact digit (digits_isDigit listed)
  · rcases List.mem_cons.mp places with rfl | places
    · decide
    · obtain ⟨d, listed, rfl⟩ := List.mem_map.mp places
      exact digit (padLeft_isDigit listed)

theorem hsvSpelled_lower (h s v : Nat) : Text.lower (hsvSpelled h s v) = hsvSpelled h s v := by
  have lowered : ∀ c ∈ hsvSpelled h s v, Lowered c := by
    intro c member
    have plain : (["hsv(", ",", "%,", "%)"].all fun part => (Text.ofString part).all fun c => decide (Lowered c)) = true := by decide
    have fixed {part : String} (listed : part ∈ ["hsv(", ",", "%,", "%)"]) (inside : c ∈ Text.ofString part) : Lowered c :=
      of_decide_eq_true (List.all_eq_true.mp (List.all_eq_true.mp plain part listed) c inside)
    simp only [hsvSpelled, List.mem_append] at member
    rcases member with inside | number | inside | number | inside | number | inside
    · exact fixed (by decide) inside
    · exact spelled_lowered number
    · exact fixed (by decide) inside
    · exact spelled_lowered number
    · exact fixed (by decide) inside
    · exact spelled_lowered number
    · exact fixed (by decide) inside
  exact lower_lowered lowered

theorem hsvSpelled_chomp (h s v : Nat) : chomp (hsvSpelled h s v) = hsvSpelled h s v := by
  obtain ⟨before, ends⟩ : ∃ before, hsvSpelled h s v = before ++ [Text.ofChar ')'] := by
    refine ⟨Text.ofString "hsv(" ++ (spelled h ++ (Text.ofString "," ++ (spelled s ++ (Text.ofString "%," ++ (spelled v ++ Text.ofString "%"))))), ?_⟩
    simp only [List.append_assoc]
    rfl
  rw [chomp, ends, List.reverse_append]
  change (if (Text.ofChar ')').val = 10 then _ else _) = _
  exact if_neg (by decide)

/-- The text is read as the hue, the saturation and the value that it was written from. -/
theorem hsvSpelled_read {h s v : Nat} (short : (hsvSpelled h s v).length ≤ longest) : ofText K (hsvSpelled h s v) =
    ofHsv (Scalar.decimal h 3 / Scalar.ofInt 360) (Scalar.decimal s 3 / Scalar.ofInt 100) (Scalar.decimal v 3 / Scalar.ofInt 100 : K) := by
  have unnamed : (names.find? fun entry => (hsvSpelled h s v).isString entry.1) = none := by
    refine List.find?_eq_none.mpr fun entry listed named => ?_
    have same : hsvSpelled h s v = Text.ofString entry.1 := by simpa [Text.isString] using named
    have different : ∀ entry ∈ names, (Text.ofString entry.1).take 3 ≠ Text.ofString "hsv" := by decide
    refine different entry listed ?_
    rw [← same]
    rfl
  have unhashed : (after? 35 (hsvSpelled h s v)).bind ofHex? = none := rfl
  rw [ofText, if_neg (by omega)]
  dsimp only
  rw [hsvSpelled_lower, hsvSpelled_chomp, unnamed]
  dsimp only
  rw [unhashed]
  dsimp only
  rw [hsvSpelled_call]
  change (some <$> ofHsv (Scalar.decimal h 3 / Scalar.ofInt 360) (Scalar.decimal s 3 / Scalar.ofInt 100) (Scalar.decimal v 3 / Scalar.ofInt 100 : K) >>= _) = _
  cases ofHsv (Scalar.decimal h 3 / Scalar.ofInt 360) (Scalar.decimal s 3 / Scalar.ofInt 100) (Scalar.decimal v 3 / Scalar.ofInt 100 : K) with
  | error failure => rfl
  | ok c => rfl

variable {K}

/-- A pen whose numbers are written without a sign is spelled by them. -/
theorem hsvText_spelled {hue saturation brightness : K} {l m n : Nat}
    (first : Scalar.fixed 3 (Scalar.floorMod hue (Scalar.ofInt 360)) = Decimal.pointed 3 l)
    (second : Scalar.fixed 3 (Scalar.clampUnit saturation * Scalar.ofInt 100) = Decimal.pointed 3 m)
    (third : Scalar.fixed 3 (Scalar.clampUnit brightness * Scalar.ofInt 100) = Decimal.pointed 3 n) :
    Pen.hsvText hue saturation brightness = hsvSpelled l m n := by
  unfold Pen.hsvText
  rw [first]
  dsimp only
  rw [second, third, List.map_append, List.map_append, List.map_append, List.map_append, List.map_append, List.map_append,
    List.append_assoc, List.append_assoc, List.append_assoc, List.append_assoc, List.append_assoc]
  rfl

end Lindenmayer.Reading
