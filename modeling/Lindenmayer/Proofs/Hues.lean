import Mathlib.Algebra.Order.Group.MinMax
import Mathlib.Tactic.FieldSimp
import Mathlib.Tactic.GCongr
import Mathlib.Tactic.IntervalCases
import Mathlib.Tactic.Ring
import Lindenmayer.Drawing.Trace
import Lindenmayer.Proofs.Hashes
import Lindenmayer.Proofs.Passes
import Lindenmayer.Proofs.Placing

/-!
The colour of a pen of red, green and blue, in exact arithmetic. A channel of a colour falls off with the distance of
the hue from its own, counted in sectors of sixty degrees (`lit`). Both ways between colours and hues are this one
formula: the hue of a colour lights its channels (`ofUnits_lit`), and a hue that is read lights those that are drawn
(`ofHsv_lit`). As the formula is no steeper than one in any of its numbers (`lit_error`), what is lost in writing them
with three places stays below a hundredth of a channel (`hues_kept`).
-/
namespace Lindenmayer.Hues
open Outcomes Exact Reading Hashes Replaying Passes Placing

/-! ### Distances of hues -/

section
variable {F : Type} [Field F] [LinearOrder F]

/-- How far a channel falls where the hue is so many sectors away: nothing within one, everything from two on. -/
def fall (d : F) : F := min (max (d - 1) 0) 1

/-- The channel of a colour whose hue is `d` sectors away from the channel's. -/
def lit (s v d : F) : F := v * (1 - s * fall d)

/-- How far a hue is from the beginning of a sector. -/
def away (sector : Int) (h : F) : F := |h - sector|

/-- How far a hue, in sectors from zero to six, is from red. -/
def fromRed (h : F) : F := (3 : Int) - away 3 h

def fromGreen (h : F) : F := away 2 h

def fromBlue (h : F) : F := away 4 h

variable [IsStrictOrderedRing F] {d e h s t v w : F}

theorem fall_near (le : d ≤ 1) : fall d = 0 := by
  rw [fall, max_eq_right (sub_nonpos.mpr le), min_eq_left zero_le_one]

theorem fall_between (low : 1 ≤ d) (high : d ≤ 2) : fall d = d - 1 := by
  rw [fall, max_eq_left (sub_nonneg.mpr low), min_eq_left (by linarith)]

theorem fall_far (le : 2 ≤ d) : fall d = 1 := by
  rw [fall, max_eq_left (by linarith), min_eq_right (by linarith)]

theorem fall_unit (d : F) : 0 ≤ fall d ∧ fall d ≤ 1 := ⟨le_min (le_max_right _ _) zero_le_one, min_le_right _ _⟩

theorem fall_error (d e : F) : |fall d - fall e| ≤ |d - e| := by
  have clipped : |fall d - fall e| ≤ |max (d - 1) 0 - max (e - 1) 0| := by
    simpa [fall] using abs_min_sub_min_le_max (max (d - 1) 0) 1 (max (e - 1) 0) 1
  have raised : |max (d - 1) 0 - max (e - 1) 0| ≤ |d - e| := by simpa using abs_max_sub_max_le_max (d - 1) 0 (e - 1) 0
  exact clipped.trans raised

theorem lit_unit (saturation : 0 ≤ s ∧ s ≤ 1) (value : 0 ≤ v ∧ v ≤ 1) (d : F) : 0 ≤ lit s v d ∧ lit s v d ≤ 1 := by
  obtain ⟨least, most⟩ := fall_unit d
  have lost : 0 ≤ s * fall d ∧ s * fall d ≤ 1 := ⟨mul_nonneg saturation.1 least, mul_le_one₀ saturation.2 least most⟩
  rw [lit]
  exact ⟨mul_nonneg value.1 (by linarith), mul_le_one₀ value.2 (by linarith) (by linarith)⟩

/-- A channel changes by no more than the numbers that it is made of. -/
theorem lit_error (saturation : 0 ≤ s ∧ s ≤ 1) (value : 0 ≤ w ∧ w ≤ 1) (d e : F) :
    |lit s v d - lit t w e| ≤ |v - w| + |s - t| + |d - e| := by
  obtain ⟨least, most⟩ := fall_unit d
  obtain ⟨least', most'⟩ := fall_unit e
  have kept : |1 - s * fall d| ≤ 1 := by
    have lost := mul_le_one₀ saturation.2 least most
    rw [abs_of_nonneg (sub_nonneg.mpr lost)]
    linarith [mul_nonneg saturation.1 least]
  -- The values differ in the channel as it was, the others in the channel of the second value.
  calc |lit s v d - lit t w e| = |(v - w) * (1 - s * fall d) + w * ((t - s) * fall e + s * (fall e - fall d))| := by
        rw [lit, lit]
        congr 1
        ring
    _ ≤ |v - w| * |1 - s * fall d| + |w| * (|t - s| * |fall e| + |s| * |fall e - fall d|) := by
        refine (abs_add_le _ _).trans (add_le_add (abs_mul _ _).le ?_)
        rw [abs_mul]
        refine mul_le_mul_of_nonneg_left ((abs_add_le _ _).trans ?_) (abs_nonneg w)
        rw [abs_mul, abs_mul]
    _ ≤ |v - w| * 1 + 1 * (|t - s| * 1 + 1 * |fall e - fall d|) := by
        have one : |w| ≤ 1 := by rw [abs_of_nonneg value.1]; exact value.2
        have two : |fall e| ≤ 1 := by rw [abs_of_nonneg least']; exact most'
        have three : |s| ≤ 1 := by rw [abs_of_nonneg saturation.1]; exact saturation.2
        gcongr
    _ ≤ |v - w| + |s - t| + |d - e| := by
        have away := fall_error e d
        rw [abs_sub_comm t s, abs_sub_comm d e]
        linarith

theorem away_error (sector : Int) (h g : F) : |away sector h - away sector g| ≤ |h - g| := by
  rw [away, away, ← sub_sub_sub_cancel_right h g (sector : F)]
  exact abs_abs_sub_abs_le _ _

theorem away_low {sector : Int} (le : h ≤ sector) : away sector h = sector - h := by
  rw [away, abs_of_nonpos (sub_nonpos.mpr le), neg_sub]

theorem away_high {sector : Int} (le : sector ≤ h) : away sector h = h - sector := abs_of_nonneg (sub_nonneg.mpr le)

theorem fromRed_error (h g : F) : |fromRed h - fromRed g| ≤ |h - g| := by
  rw [fromRed, fromRed, sub_sub_sub_cancel_left, abs_sub_comm h g]
  exact away_error 3 g h

theorem fromGreen_error (h g : F) : |fromGreen h - fromGreen g| ≤ |h - g| := away_error 2 h g

theorem fromBlue_error (h g : F) : |fromBlue h - fromBlue g| ≤ |h - g| := away_error 4 h g

theorem fromRed_low (le : h ≤ 3) : fromRed h = h := by
  rw [fromRed, away_low (by exact_mod_cast le), sub_sub_cancel]

theorem fromRed_high (le : 3 ≤ h) : fromRed h = 6 - h := by
  rw [fromRed, away_high (by exact_mod_cast le)]
  push_cast
  ring

theorem fromGreen_low (le : h ≤ 2) : fromGreen h = 2 - h := by rw [fromGreen, away_low (by exact_mod_cast le), Int.cast_ofNat]

theorem fromGreen_high (le : 2 ≤ h) : fromGreen h = h - 2 := by rw [fromGreen, away_high (by exact_mod_cast le), Int.cast_ofNat]

theorem fromBlue_low (le : h ≤ 4) : fromBlue h = 4 - h := by rw [fromBlue, away_low (by exact_mod_cast le), Int.cast_ofNat]

theorem fromBlue_high (le : 4 ≤ h) : fromBlue h = h - 4 := by rw [fromBlue, away_high (by exact_mod_cast le), Int.cast_ofNat]

end

variable {F : Type} {outside : Outside F} [Field F] [LinearOrder F] [IsStrictOrderedRing F] [FloorRing F]

/-! ### Colours of hues -/

/-- The channel nearest to a number of the unit interval. -/
def byteOf (x : F) : Int := round (x * (255 : Int))

theorem byteOf_floor (x : F) : byteOf x = ⌊x * 255 + 1 / 2⌋ := by rw [byteOf, round_eq, Int.cast_ofNat]

theorem channel_exact {x : Exact F outside} (above : 0 ≤ x) : Colour.channel x = .ok (byteOf (F := Exact F outside) x) := by
  have raised : 0 ≤ x * 255 + 1 / 2 := by positivity
  have same : x * Scalar.ofInt 255 + Scalar.half Scalar.one = x * 255 + 1 / 2 := by
    rw [half_exact, one_exact, ofInt_exact]
    push_cast
    rfl
  rw [Colour.channel, same, truncate_exact raised]
  exact congrArg Except.ok (byteOf_floor (F := Exact F outside) x).symm

/-- The colour of three channels of the unit interval. -/
def colourOf (r g b : F) : Colour := ⟨byteOf r, byteOf g, byteOf b⟩

theorem ofUnits_exact {r g b : Exact F outside} (red : 0 ≤ r) (green : 0 ≤ g) (blue : 0 ≤ b) :
    Colour.ofUnits r g b = .ok (colourOf (F := Exact F outside) r g b) := by
  rw [Colour.ofUnits, channel_exact red, channel_exact green, channel_exact blue]
  rfl

/-- How far the channels fall in a sector, at a part of it. -/
def sectorFalls (sector : Nat) (part : F) : F × F × F :=
  match sector with
  | 0 => (0, 1 - part, 1)
  | 1 => (part, 0, 1)
  | 2 => (1, 0, 1 - part)
  | 3 => (1, part, 0)
  | 4 => (1 - part, 1, 0)
  | _ => (0, 1, part)

omit [FloorRing F] in
theorem falls_sector {h : F} {i : Int} (low : i ≤ h) (high : h ≤ i + 1) (first : 0 ≤ i) (last : h ≤ 6) :
    (fall (fromRed h), fall (fromGreen h), fall (fromBlue h)) = sectorFalls (i % 6).toNat (h - i) := by
  have most : i ≤ 6 := by
    have le : (i : F) ≤ 6 := low.trans last
    exact_mod_cast le
  have sectors : i = 0 ∨ i = 1 ∨ i = 2 ∨ i = 3 ∨ i = 4 ∨ i = 5 ∨ i = 6 := by omega
  have triple {a b c x y z : F} (one : a = x) (two : b = y) (three : c = z) : (a, b, c) = (x, y, z) := by rw [one, two, three]
  rcases sectors with rfl | rfl | rfl | rfl | rfl | rfl | rfl
  · push_cast at low high ⊢
    rw [fromRed_low (by linarith), fromGreen_low (by linarith), fromBlue_low (by linarith), fall_near (by linarith),
      fall_between (by linarith) (by linarith), fall_far (by linarith)]
    exact triple rfl (by ring) rfl
  · push_cast at low high ⊢
    rw [fromRed_low (by linarith), fromGreen_low (by linarith), fromBlue_low (by linarith), fall_between (by linarith) (by linarith),
      fall_near (by linarith), fall_far (by linarith)]
    exact triple rfl rfl rfl
  · push_cast at low high ⊢
    rw [fromRed_low (by linarith), fromGreen_high (by linarith), fromBlue_low (by linarith), fall_far (by linarith),
      fall_near (by linarith), fall_between (by linarith) (by linarith)]
    exact triple rfl rfl (by ring)
  · push_cast at low high ⊢
    rw [fromRed_high (by linarith), fromGreen_high (by linarith), fromBlue_low (by linarith), fall_far (by linarith),
      fall_between (by linarith) (by linarith), fall_near (by linarith)]
    exact triple rfl (by ring) rfl
  · push_cast at low high ⊢
    rw [fromRed_high (by linarith), fromGreen_high (by linarith), fromBlue_high (by linarith), fall_between (by linarith) (by linarith),
      fall_far (by linarith), fall_near (by linarith)]
    exact triple (by ring) rfl rfl
  · push_cast at low high ⊢
    rw [fromRed_high (by linarith), fromGreen_high (by linarith), fromBlue_high (by linarith), fall_near (by linarith),
      fall_far (by linarith), fall_between (by linarith) (by linarith)]
    exact triple rfl rfl (by ring)
  · -- The end of the circle is where it begins.
    push_cast at low high ⊢
    rw [fromRed_high (by linarith), fromGreen_high (by linarith), fromBlue_high (by linarith), fall_near (by linarith),
      fall_far (by linarith), fall_far (by linarith)]
    exact triple rfl (by linarith) rfl

theorem ofHsv_lit {h s v : Exact F outside} (hue : 0 ≤ h ∧ h ≤ 1) (saturation : 0 ≤ s ∧ s ≤ 1) (value : 0 ≤ v ∧ v ≤ 1) :
    Colour.ofHsv h s v = .ok (colourOf (F := Exact F outside) (lit s v (fromRed (h * 6))) (lit s v (fromGreen (h * 6))) (lit s v (fromBlue (h * 6)))) := by
  rw [← ofUnits_exact (lit_unit saturation value _).1 (lit_unit saturation value _).1 (lit_unit saturation value _).1, Colour.ofHsv, isZero_exact]
  by_cases grey : s = 0
  · simp [grey, lit]
  · have sectors : h * Scalar.ofInt 6 = h * 6 := by
      rw [ofInt_exact]
      push_cast
      rfl
    have above : 0 ≤ h * 6 := by linarith
    have falls := falls_sector (Int.floor_le (h * 6)) (Int.lt_floor_add_one (h * 6)).le (Int.floor_nonneg.mpr above) (by linarith)
    rw [if_neg (by simpa using grey)]
    dsimp only
    rw [sectors, truncate_exact above, ok_bind, one_exact, ofInt_exact]
    rw [lit, lit, lit]
    generalize h * 6 - (⌊h * 6⌋ : Exact F outside) = part at falls ⊢
    generalize fall (fromRed (h * 6)) = red, fall (fromGreen (h * 6)) = green, fall (fromBlue (h * 6)) = blue at falls ⊢
    generalize (⌊h * 6⌋ % 6).toNat = sector at falls ⊢
    obtain _ | _ | _ | _ | _ | later := sector
    all_goals
      cases falls
      simp only [mul_zero, mul_one, sub_zero]

/-! ### Hues of colours -/

/-- A hue of a colour, in sectors: every channel falls by what it lacks of the greatest. -/
structure Turned (r g b most delta h : F) : Prop where
  sectors : 0 ≤ h ∧ h < 6
  red : fall (fromRed h) * delta = most - r
  green : fall (fromGreen h) * delta = most - g
  blue : fall (fromBlue h) * delta = most - b

section
omit [FloorRing F]
variable {r g b : F}

theorem part_exact {p q low high : F} (pos : 0 < q) (above : low * q ≤ p) (below : p ≤ high * q) :
    p / q * q = p ∧ low ≤ p / q ∧ p / q ≤ high :=
  ⟨div_mul_cancel₀ _ pos.ne', (le_div_iff₀ pos).mpr above, (div_le_iff₀ pos).mpr below⟩

theorem turned_sector {most delta h : F} (i : Int) (first : 0 ≤ i) (low : i ≤ h) (high : h ≤ i + 1) (short : h < 6)
    (red : (sectorFalls (i % 6).toNat (h - i)).1 * delta = most - r) (green : (sectorFalls (i % 6).toNat (h - i)).2.1 * delta = most - g)
    (blue : (sectorFalls (i % 6).toNat (h - i)).2.2 * delta = most - b) : Turned r g b most delta h := by
  have falls := falls_sector low high first short.le
  rw [← falls] at red green blue
  exact ⟨⟨(Int.cast_nonneg first).trans low, short⟩, red, green, blue⟩

/-- Red is the greatest. The hue is counted from the end of the circle where it is nearer to blue. -/
theorem turned_red (green : g ≤ r) (blue : b ≤ r) (apart : min g b < r) :
    Turned r g b r (r - min g b) (if b ≤ g then (g - b) / (r - min g b) else (g - b) / (r - min g b) + 6) := by
  have room : 0 < r - min g b := sub_pos.mpr apart
  by_cases least : b ≤ g
  · rw [if_pos least]
    rw [min_eq_right least] at room ⊢
    obtain ⟨part, low, high⟩ : _ ∧ 0 ≤ _ ∧ _ ≤ 1 := part_exact room (p := g - b) (by linarith) (by linarith)
    generalize (g - b) / (r - b) = x at part low high ⊢
    refine turned_sector 0 (by decide) (by simpa using low) (by simpa using high) (by linarith) ?_ ?_ ?_
    · simp [sectorFalls]
    · simp [sectorFalls, sub_mul, part]
    · simp [sectorFalls]
  · rw [if_neg least]
    rw [min_eq_left (not_le.mp least).le] at room ⊢
    have before : (g - b) / (r - g) < 0 := div_neg_of_neg_of_pos (by linarith) room
    obtain ⟨part, low, high⟩ : _ ∧ -1 ≤ _ ∧ _ ≤ 0 := part_exact room (p := g - b) (by linarith) (by linarith)
    generalize (g - b) / (r - g) = x at part low high before ⊢
    refine turned_sector 5 (by decide) (by push_cast; linarith) (by push_cast; linarith) (by linarith) ?_ ?_ ?_
    · simp [sectorFalls]
    · simp [sectorFalls]
    · simp [sectorFalls]
      linarith

/-- Green is the greatest. -/
theorem turned_green (red : r ≤ g) (blue : b ≤ g) (apart : min r b < g) :
    Turned r g b g (g - min r b) ((b - r) / (g - min r b) + 2) := by
  have room : 0 < g - min r b := sub_pos.mpr apart
  rcases le_total r b with least | least
  · rw [min_eq_left least] at room ⊢
    obtain ⟨part, low, high⟩ : _ ∧ 0 ≤ _ ∧ _ ≤ 1 := part_exact room (p := b - r) (by linarith) (by linarith)
    generalize (b - r) / (g - r) = x at part low high ⊢
    refine turned_sector 2 (by decide) (by push_cast; linarith) (by push_cast; linarith) (by linarith) ?_ ?_ ?_
    · simp [sectorFalls]
    · simp [sectorFalls]
    · simp [sectorFalls]
      linarith
  · rw [min_eq_right least] at room ⊢
    obtain ⟨part, low, high⟩ : _ ∧ -1 ≤ _ ∧ _ ≤ 0 := part_exact room (p := b - r) (by linarith) (by linarith)
    generalize (b - r) / (g - b) = x at part low high ⊢
    refine turned_sector 1 (by decide) (by push_cast; linarith) (by push_cast; linarith) (by linarith) ?_ ?_ ?_
    · simp [sectorFalls]
      linarith
    · simp [sectorFalls]
    · simp [sectorFalls]

/-- Blue is the greatest. -/
theorem turned_blue (red : r ≤ b) (green : g ≤ b) (apart : min r g < b) :
    Turned r g b b (b - min r g) ((r - g) / (b - min r g) + 4) := by
  have room : 0 < b - min r g := sub_pos.mpr apart
  rcases le_total g r with least | least
  · rw [min_eq_right least] at room ⊢
    obtain ⟨part, low, high⟩ : _ ∧ 0 ≤ _ ∧ _ ≤ 1 := part_exact room (p := r - g) (by linarith) (by linarith)
    generalize (r - g) / (b - g) = x at part low high ⊢
    refine turned_sector 4 (by decide) (by push_cast; linarith) (by push_cast; linarith) (by linarith) ?_ ?_ ?_
    · simp [sectorFalls]
      linarith
    · simp [sectorFalls]
    · simp [sectorFalls]
  · rw [min_eq_left least] at room ⊢
    obtain ⟨part, low, high⟩ : _ ∧ -1 ≤ _ ∧ _ ≤ 0 := part_exact room (p := r - g) (by linarith) (by linarith)
    generalize (r - g) / (b - r) = x at part low high ⊢
    refine turned_sector 3 (by decide) (by push_cast; linarith) (by push_cast; linarith) (by linarith) ?_ ?_ ?_
    · simp [sectorFalls]
    · simp [sectorFalls]
      linarith
    · simp [sectorFalls]

/-- The greatest of a colour's channels. -/
def most (r g b : F) : F := max (max r g) b

/-- What lies between the greatest and the least of a colour's channels. -/
def spread (r g b : F) : F := most r g b - min (min r g) b

/-- The hue of a colour that is not grey, in sectors. -/
def turn (r g b : F) : F :=
  if most r g b = r then (if b ≤ g then (g - b) / spread r g b else (g - b) / spread r g b + (6 : Int))
  else if most r g b = g then (b - r) / spread r g b + (2 : Int)
  else (r - g) / spread r g b + (4 : Int)

omit [IsStrictOrderedRing F] in
theorem turn_eq (r g b : F) : turn r g b =
    if most r g b = r then (if b ≤ g then (g - b) / spread r g b else (g - b) / spread r g b + 6)
    else if most r g b = g then (b - r) / spread r g b + 2 else (r - g) / spread r g b + 4 := by
  simp only [turn, Int.cast_ofNat]

omit [Field F] [IsStrictOrderedRing F] in
theorem le_most (r g b : F) : r ≤ most r g b ∧ g ≤ most r g b ∧ b ≤ most r g b :=
  ⟨(le_max_left r g).trans (le_max_left _ b), (le_max_right r g).trans (le_max_left _ b), le_max_right _ b⟩

theorem turn_turned (apart : 0 < spread r g b) : Turned r g b (most r g b) (spread r g b) (turn r g b) := by
  obtain ⟨red, green, blue⟩ := le_most r g b
  rw [turn_eq]
  by_cases first : most r g b = r
  · have green := green.trans_eq first
    have gap : spread r g b = r - min g b := by rw [spread, first, min_eq_right green]
    rw [if_pos first, gap, first]
    exact turned_red green (blue.trans_eq first) (sub_pos.mp (gap ▸ apart))
  have above : r < most r g b := red.lt_of_ne' first
  rw [if_neg first]
  by_cases second : most r g b = g
  · have gap : spread r g b = g - min r b := by rw [spread, second, min_eq_left (above.le.trans_eq second)]
    rw [if_pos second, gap, second]
    exact turned_green (red.trans_eq second) (blue.trans_eq second) (sub_pos.mp (gap ▸ apart))
  · have third : most r g b = b := by
      rcases max_choice (max r g) b with same | same
      · rcases max_choice r g with same' | same'
        · exact absurd (same.trans same') first
        · exact absurd (same.trans same') second
      · exact same
    have red := red.trans_eq third
    have gap : spread r g b = b - min r g := by rw [spread, third, min_eq_left ((min_le_left r g).trans red)]
    rw [if_neg second, gap, third]
    exact turned_blue red (green.trans_eq third) (sub_pos.mp (gap ▸ apart))

end

section
variable {r g b : Exact F outside}

omit [IsStrictOrderedRing F] in
theorem clipUnit_exact {x : Exact F outside} (unit : 0 ≤ x ∧ x ≤ 1) : Pen.clipUnit x = x := by
  have real : Scalar.isNan x = false := rfl
  rw [Pen.clipUnit, real, lt_exact, lt_exact, zero_exact, one_exact]
  rcases unit.1.eq_or_lt' with zero | above
  · simp [zero]
  · rcases unit.2.eq_or_lt with one | below
    · simp [one]
    · simp [above, below]

theorem degrees_exact {h : Exact F outside} (sectors : 0 ≤ h ∧ h < 6) :
    Scalar.floorMod (h * Scalar.ofInt 60) (Scalar.ofInt 360) = h * 60 := by
  have same : h * Scalar.ofInt 60 = h * 60 := congrArg (h * ·) (Int.cast_ofNat 60)
  have turn : (Scalar.ofInt 360 : Exact F outside) = 360 := Int.cast_ofNat 360
  have within := floorMod_exact (x := h * 60) (y := 360) (n := 0) (by simpa using sectors.1) (by push_cast; linarith)
  rw [same, turn, within]
  simp

omit [IsStrictOrderedRing F] in
theorem most_exact (r g b : Exact F outside) : Scalar.max (Scalar.max r g) b = most r g b := by
  rw [max_exact, max_exact]
  rfl

omit [IsStrictOrderedRing F] in
theorem spread_exact (r g b : Exact F outside) : most r g b - Scalar.min (Scalar.min r g) b = spread r g b := by
  rw [min_exact, min_exact]
  rfl

/-- The remainder takes a hue that is nearer to blue to the end of the circle. -/
theorem floorMod_turn (apart : 0 < spread r g b) (red : most r g b = r) :
    Scalar.floorMod ((g - b) / spread r g b) 6 = turn r g b := by
  have sectors := (turn_turned apart).sectors
  rw [turn_eq, if_pos red] at sectors ⊢
  by_cases least : b ≤ g
  · rw [if_pos least] at sectors ⊢
    rw [floorMod_exact (n := 0) (by simpa using sectors.1) (by simpa using sectors.2)]
    simp
  · rw [if_neg least] at sectors ⊢
    rw [floorMod_exact (n := -1) (by simpa using sectors.1) (by simpa using sectors.2)]
    simp

theorem ofUnits_turned (apart : 0 < spread r g b) :
    Pen.ofUnits r g b = ⟨turn r g b * 60, spread r g b / most r g b, most r g b⟩ := by
  have same (x y : Exact F outside) : Scalar.same x y = decide (x = y) := rfl
  have two : (Scalar.ofInt 2 : Exact F outside) = 2 := Int.cast_ofNat 2
  have four : (Scalar.ofInt 4 : Exact F outside) = 4 := Int.cast_ofNat 4
  have six : (Scalar.ofInt 6 : Exact F outside) = 6 := Int.cast_ofNat 6
  have hue : (if most r g b = r then Scalar.floorMod ((g - b) / spread r g b) 6
      else if most r g b = g then (b - r) / spread r g b + 2 else (r - g) / spread r g b + 4) = turn r g b := by
    by_cases red : most r g b = r
    · rw [if_pos red, floorMod_turn apart red]
    · rw [if_neg red, turn_eq, if_neg red]
  have saturation : (if most r g b = 0 then Scalar.zero else spread r g b / most r g b) = spread r g b / most r g b := by
    rw [zero_exact]
    by_cases none_ : most r g b = 0
    · simp [none_]
    · rw [if_neg none_]
  unfold Pen.ofUnits
  simp only [most_exact]
  simp only [spread_exact, isZero_exact, same, apart.ne', decide_false, decide_eq_true_eq, Bool.false_eq_true, if_false, two, four, six,
    hue, saturation, degrees_exact (turn_turned apart).sectors]

theorem ofUnits_grey (grey : spread r g b = 0) : Pen.ofUnits r g b = ⟨0, 0, most r g b⟩ := by
  have origin : Scalar.floorMod (0 * Scalar.ofInt 60 : Exact F outside) (Scalar.ofInt 360) = 0 := by
    rw [degrees_exact ⟨le_refl _, by norm_num⟩, zero_mul]
  unfold Pen.ofUnits
  simp only [most_exact]
  simp only [spread_exact, grey, isZero_exact, decide_true, if_true, zero_div, zero_exact, ite_self, origin]

/-- The pen of a colour, and the colour that it gives. -/
structure Shows (r g b : F) (p : Pen.Hsv F) : Prop where
  hue : 0 ≤ p.hue ∧ p.hue < 360
  saturation : 0 ≤ p.saturation ∧ p.saturation ≤ 1
  brightness : 0 ≤ p.brightness ∧ p.brightness ≤ 1
  red : lit p.saturation p.brightness (fromRed (p.hue / 60)) = r
  green : lit p.saturation p.brightness (fromGreen (p.hue / 60)) = g
  blue : lit p.saturation p.brightness (fromBlue (p.hue / 60)) = b

omit [FloorRing F] [IsStrictOrderedRing F] in
theorem lit_channel {most delta c d : F} (some_ : most ≠ 0) (fallen : fall d * delta = most - c) : lit (delta / most) most d = c := by
  rw [lit, mul_sub, mul_one, ← mul_assoc, mul_div_cancel₀ delta some_, mul_comm, fallen, sub_sub_cancel]

theorem ofUnits_shows (red : 0 ≤ r ∧ r ≤ 1) (green : 0 ≤ g ∧ g ≤ 1) (blue : 0 ≤ b ∧ b ≤ 1) :
    Shows (F := Exact F outside) r g b (Pen.ofUnits r g b) := by
  obtain ⟨fromR, fromG, fromB⟩ := le_most r g b
  have value : 0 ≤ most r g b ∧ most r g b ≤ 1 := ⟨red.1.trans fromR, max_le (max_le red.2 green.2) blue.2⟩
  have least : 0 ≤ min (min r g) b := le_min (le_min red.1 green.1) blue.1
  have ordered : min (min r g) b ≤ most r g b := (min_le_right _ b).trans fromB
  rcases (sub_nonneg.mpr ordered).eq_or_lt' with grey | apart
  · have same : min (min r g) b = most r g b := (sub_eq_zero.mp grey).symm
    have level (s v d : Exact F outside) (none_ : s = 0) : lit s v d = v := by rw [lit, none_, zero_mul, sub_zero, mul_one]
    rw [ofUnits_grey grey]
    refine ⟨⟨le_refl _, by norm_num⟩, ⟨le_refl _, zero_le_one⟩, value, ?_, ?_, ?_⟩
    · rw [level _ _ _ rfl]
      exact le_antisymm (same.symm.le.trans ((min_le_left _ b).trans (min_le_left r g))) fromR
    · rw [level _ _ _ rfl]
      exact le_antisymm (same.symm.le.trans ((min_le_left _ b).trans (min_le_right r g))) fromG
    · rw [level _ _ _ rfl]
      exact le_antisymm (same.symm.le.trans (min_le_right _ b)) fromB
  · have turned := turn_turned apart
    have above : 0 < most r g b := least.trans_lt (sub_pos.mp apart)
    have sectors : turn r g b * 60 / 60 = turn r g b := mul_div_cancel_right₀ _ (by norm_num)
    rw [ofUnits_turned apart]
    refine ⟨⟨by linarith [turned.sectors.1], by linarith [turned.sectors.2]⟩, ⟨div_nonneg apart.le above.le, (div_le_one above).mpr ?_⟩, value,
      ?_, ?_, ?_⟩
    · exact sub_le_self _ least
    · rw [sectors]
      exact lit_channel above.ne' turned.red
    · rw [sectors]
      exact lit_channel above.ne' turned.green
    · rw [sectors]
      exact lit_channel above.ne' turned.blue

end

/-! ### Three places -/

/-- A number is written as the thousandths next to it. -/
theorem fixed_thousandths {x : Exact F outside} {n : Nat} (low : 0 ≤ x) (high : x ≤ n) :
    ∃ k, Scalar.fixed 3 x = Decimal.pointed 3 k ∧ k ≤ n * 1000 ∧ |(Scalar.decimal k 3 : Exact F outside) - x| ≤ 1 / 2000 := by
  have above : 0 ≤ nearest (x * 10 ^ 3) := le_nearest (by push_cast; positivity)
  have below : nearest (x * 10 ^ 3) ≤ (n * 1000 : Nat) := nearest_le (by push_cast; linarith)
  obtain ⟨k, same⟩ := Int.eq_ofNat_of_zero_le above
  have error := nearest_error (x * 10 ^ 3)
  rw [same] at below error
  refine ⟨k, ?_, by exact_mod_cast below, ?_⟩
  · rw [fixed_exact 3 low, same]
    rfl
  · have value : (Scalar.decimal k 3 : Exact F outside) = k / 10 ^ 3 := rfl
    rw [Int.cast_natCast, abs_le] at error
    rw [value, abs_le]
    constructor <;> linarith

omit [IsStrictOrderedRing F] in
theorem clampUnit_unit {x : Exact F outside} (unit : 0 ≤ x ∧ x ≤ 1) : Scalar.clampUnit x = x := by
  rw [clampUnit_exact, max_eq_left unit.1, min_eq_left unit.2]

/-- A part of the unit interval is written in percent. -/
theorem percent_thousandths {x : Exact F outside} (unit : 0 ≤ x ∧ x ≤ 1) :
    ∃ k, Scalar.fixed 3 (Scalar.clampUnit x * Scalar.ofInt 100) = Decimal.pointed 3 k ∧ k ≤ 100 * 1000 ∧
      |(Scalar.decimal k 3 : Exact F outside) / Scalar.ofInt 100 - x| ≤ 1 / 200000 := by
  have hundred : (Scalar.ofInt 100 : Exact F outside) = 100 := Int.cast_ofNat 100
  obtain ⟨k, written, most, error⟩ := fixed_thousandths (x := x * 100) (n := 100) (by linarith) (by push_cast; linarith)
  refine ⟨k, by rw [clampUnit_unit unit, hundred, written], most, ?_⟩
  rw [abs_le] at error ⊢
  rw [hundred]
  constructor <;> linarith

theorem decimal_unit {k n : Nat} (pos : 0 < n) (most : k ≤ n * 1000) :
    0 ≤ (Scalar.decimal k 3 / Scalar.ofInt n : Exact F outside) ∧ (Scalar.decimal k 3 / Scalar.ofInt n : Exact F outside) ≤ 1 := by
  have value : (Scalar.decimal k 3 / Scalar.ofInt n : Exact F outside) = k / 10 ^ 3 / n := congrArg (_ / ·) (Int.cast_natCast n)
  have room : (0 : Exact F outside) < n := Nat.cast_pos.mpr pos
  have le : (k : Exact F outside) ≤ n * 1000 := by exact_mod_cast most
  rw [value]
  refine ⟨by positivity, (div_le_one room).mpr ?_⟩
  linarith

/-- The colour of a pen is that of numbers next to the pen's. -/
theorem colourText_lit {hue s v : Exact F outside} (degrees : 0 ≤ hue ∧ hue < 360) (saturation : 0 ≤ s ∧ s ≤ 1) (value : 0 ≤ v ∧ v ≤ 1) :
    ∃ H S V : Exact F outside, (0 ≤ S ∧ S ≤ 1) ∧ (0 ≤ V ∧ V ≤ 1) ∧ |H - hue / 60| ≤ 1 / 120000 ∧ |S - s| ≤ 1 / 200000 ∧ |V - v| ≤ 1 / 200000 ∧
      Pen.colourText hue s v =
        .ok (Pen.hashText (colourOf (F := Exact F outside) (lit S V (fromRed H)) (lit S V (fromGreen H)) (lit S V (fromBlue H)))) := by
  have turn : (Scalar.ofInt 360 : Exact F outside) = 360 := Int.cast_ofNat 360
  have within : Scalar.floorMod hue (Scalar.ofInt 360) = hue := by
    rw [turn, floorMod_exact (n := 0) (by simpa using degrees.1) (by simpa using degrees.2)]
    simp
  obtain ⟨l, first, most, near⟩ := fixed_thousandths (x := hue) (n := 360) degrees.1 (by push_cast; linarith)
  obtain ⟨m, second, some_, close⟩ := percent_thousandths saturation
  obtain ⟨n, third, all, next⟩ := percent_thousandths value
  -- A hue below 360 can be written as 360.000, so what is read is a whole turn at most and not below one.
  have circle : 0 ≤ (Scalar.decimal l 3 / Scalar.ofInt 360 : Exact F outside) ∧ (Scalar.decimal l 3 / Scalar.ofInt 360 : Exact F outside) ≤ 1 :=
    decimal_unit (n := 360) (by decide) most
  have part : 0 ≤ (Scalar.decimal m 3 / Scalar.ofInt 100 : Exact F outside) ∧ (Scalar.decimal m 3 / Scalar.ofInt 100 : Exact F outside) ≤ 1 :=
    decimal_unit (n := 100) (by decide) some_
  have light : 0 ≤ (Scalar.decimal n 3 / Scalar.ofInt 100 : Exact F outside) ∧ (Scalar.decimal n 3 / Scalar.ofInt 100 : Exact F outside) ≤ 1 :=
    decimal_unit (n := 100) (by decide) all
  refine ⟨Scalar.decimal l 3 / Scalar.ofInt 360 * 6, _, _, part, light, ?_, close, next, ?_⟩
  · rw [abs_le] at near ⊢
    rw [turn]
    constructor <;> linarith
  · rw [← within] at first
    have short := hsvSpelled_short (by omega : l ≤ 2 ^ 13 * 10 ^ 3) (by omega : m ≤ 2 ^ 13 * 10 ^ 3) (by omega : n ≤ 2 ^ 13 * 10 ^ 3)
    rw [Pen.colourText, hsvText_spelled first second third, hsvSpelled_read _ short, ofHsv_lit circle part light]
    rfl

/-! ### Main statements -/

/-- A channel is off by its rounding and by what the unrounded one is off. -/
theorem byteOf_error {x y : F} (error : |x - y| ≤ 1 / 25500) : |(byteOf x : F) - 255 * y| ≤ 51 / 100 := by
  have low := Int.floor_le (x * 255 + 1 / 2)
  have high := Int.lt_floor_add_one (x * 255 + 1 / 2)
  rw [byteOf_floor]
  rw [abs_le] at error ⊢
  constructor <;> linarith

theorem byteOf_byte {x : F} (unit : 0 ≤ x ∧ x ≤ 1) : 0 ≤ byteOf x ∧ byteOf x ≤ 255 := by
  rw [byteOf_floor]
  constructor
  · exact Int.floor_nonneg.mpr (by linarith)
  · refine Int.lt_add_one_iff.mp (Int.floor_lt.mpr ?_)
    push_cast
    linarith

/-- A colour of bytes that is a colour of the unit interval but for its rounding. -/
structure Near (c : Colour) (r g b : F) : Prop where
  bytes : Bytes c
  red : |(c.red : F) - 255 * r| ≤ 51 / 100
  green : |(c.green : F) - 255 * g| ≤ 51 / 100
  blue : |(c.blue : F) - 255 * b| ≤ 51 / 100

theorem near_exact {c : Colour} {i j k : Nat} (near : Near c ((i : F) / 255) ((j : F) / 255) ((k : F) / 255)) : c = ⟨i, j, k⟩ := by
  have whole {n : Int} {m : Nat} (error : |(n : F) - 255 * ((m : F) / 255)| ≤ 51 / 100) : n = m := by
    rw [mul_div_cancel₀ _ (by norm_num)] at error
    have small : |((n - m : Int) : F)| < (1 : Int) := by
      push_cast
      linarith
    rw [← Int.cast_abs, Int.cast_lt] at small
    exact sub_eq_zero.mp (Int.abs_lt_one_iff.mp small)
  obtain ⟨red, green, blue⟩ := c
  rw [Colour.mk.injEq]
  exact ⟨whole near.red, whole near.green, whole near.blue⟩

omit [IsStrictOrderedRing F] in
theorem ofRgb_unit {r g b : Exact F outside} (red : 0 ≤ r ∧ r ≤ 1) (green : 0 ≤ g ∧ g ≤ 1) (blue : 0 ≤ b ∧ b ≤ 1) :
    Pen.ofRgb (.list [r, g, b]) = .ok (Pen.ofUnits r g b) := by
  rw [Pen.ofRgb, Pen.Components.triple, clipUnit_exact red, clipUnit_exact green, clipUnit_exact blue]
  rfl

theorem ofUnits_near {r g b : Exact F outside} (red : 0 ≤ r ∧ r ≤ 1) (green : 0 ≤ g ∧ g ≤ 1) (blue : 0 ≤ b ∧ b ≤ 1) :
    ∃ c, Pen.colourText (Pen.ofUnits r g b).hue (Pen.ofUnits r g b).saturation (Pen.ofUnits r g b).brightness = .ok (Pen.hashText c) ∧
      Near (F := Exact F outside) c r g b := by
  have shows_ := ofUnits_shows red green blue
  obtain ⟨H, S, V, saturation, value, hue, close, next, text⟩ := colourText_lit shows_.hue shows_.saturation shows_.brightness
  have off {d e c : Exact F outside} (away : |d - e| ≤ |H - (Pen.ofUnits r g b).hue / 60|)
      (was : lit (Pen.ofUnits r g b).saturation (Pen.ofUnits r g b).brightness e = c) :
      |(byteOf (lit S V d) : Exact F outside) - 255 * c| ≤ 51 / 100 := by
    refine byteOf_error ?_
    -- The errors of the three numbers are 1 / 200000 twice and 1 / 120000, and a channel's is their sum at most.
    rw [← was]
    exact (lit_error saturation shows_.brightness d e).trans (by linarith)
  refine ⟨_, text, ⟨byteOf_byte (lit_unit saturation value _), byteOf_byte (lit_unit saturation value _),
    byteOf_byte (lit_unit saturation value _)⟩, ?_, ?_, ?_⟩
  · exact off (fromRed_error _ _) shows_.red
  · exact off (fromGreen_error _ _) shows_.green
  · exact off (fromBlue_error _ _) shows_.blue

/-- In exact arithmetic a fill can only want a colour. -/
theorem fill_exact {c : Colour} (bytes : Bytes c) (opacity : Exact F outside) :
    ∃ alpha, Picture.fill (Pen.hashText c) opacity = .ok ⟨c, alpha⟩ ∧ 0 ≤ alpha ∧ alpha ≤ 255 := by
  have whole : (Scalar.ofInt 255 : Exact F outside) = 255 := Int.cast_ofNat 255
  have low : 0 ≤ Scalar.clampUnit opacity := by
    rw [clampUnit_exact]
    exact le_min (le_max_right _ _) zero_le_one
  have high : Scalar.clampUnit opacity ≤ 1 := by
    rw [clampUnit_exact]
    exact min_le_right _ _
  refine ⟨nearest (F := Exact F outside) (Scalar.clampUnit opacity * Scalar.ofInt 255), ?_, le_nearest ?_, nearest_le ?_⟩
  · rw [Picture.fill, hashText_read _ bytes]
    rfl
  · rw [whole]
    push_cast
    linarith
  · rw [whole]
    push_cast
    linarith

omit [IsStrictOrderedRing F] in
theorem ofPen_exact {pen : Pen.Components (Exact F outside)} {p : Pen.Hsv (Exact F outside)} (found : Pen.ofRgb pen = .ok p)
    (x y heading : Number (Exact F outside)) (opacity : Exact F outside) : ∃ t, Turtle.ofPen pen x y heading opacity = .ok t ∧
      t.hue = p.hue ∧ t.saturation = p.saturation ∧ t.brightness = p.brightness := by
  obtain ⟨_, atX⟩ := toScalar_exact x
  obtain ⟨_, atY⟩ := toScalar_exact y
  obtain ⟨_, faces⟩ := toScalar_exact heading
  rw [Turtle.ofPen, found, atX, atY, faces]
  exact ⟨_, rfl, rfl, rfl, rfl⟩

/-- What leaves the pen of a turtle its colour. -/
def KeepsPen {K : Type} (t : Turtle K) (primitives : List (Primitive K)) : Prop :=
  ∀ hue saturation brightness opacity, .setPenColour hue saturation brightness opacity ∈ primitives →
    hue = t.hue ∧ saturation = t.saturation ∧ brightness = t.brightness

/-- What follows the opening of a pass and leaves the pen its colour is all drawn in it. -/
theorem steps_kept {K : Type} [Scalar K] {t : Turtle K} {text : Text}
    (named : Pen.colourText t.hue t.saturation t.brightness = .ok text) {rest : List (Primitive K)} (keeps : KeepsPen t rest) :
    ∃ steps, Recorder.steps (opening t ++ rest) = .ok steps ∧ ∀ s ∈ steps, s.colour = text := by
  have coloured : Coloured rest := by
    intro hue saturation brightness opacity member
    obtain ⟨rfl, rfl, rfl⟩ := keeps _ _ _ _ member
    exact ⟨text, named⟩
  obtain ⟨r, opened, known⟩ : ∃ r, replay .initial (opening t) = .ok (r, []) ∧ r.colour = text :=
    ⟨_, (opening_replay t _ _).mpr ⟨⟨text, named, rfl⟩, rfl⟩, rfl⟩
  obtain ⟨⟨last, steps⟩, replayed⟩ := (replay_ok r rest).mpr coloured
  refine ⟨steps, steps_replay.mpr ⟨last, replay_append.mpr ⟨r, [], steps, opened, replayed, rfl⟩⟩, fun s member => ?_⟩
  rcases replay_colours replayed s member with same | ⟨_, _, _, _, among, other⟩
  · exact same.trans known
  · obtain ⟨rfl, rfl, rfl⟩ := keeps _ _ _ _ among
    exact Except.ok.inj (other.symm.trans named)

/-- In exact arithmetic a colour of the unit interval has a pen, whose numbers are in their ranges, and each channel of
    the colour that the pen is written as is off by 0.51 at most. So a pen of three bytes is those bytes, wherever it
    draws: in the steps of what its turtle does until another pen is set, in the fills of a picture and on a canvas. -/
theorem hues_kept {F : Type} {outside : Outside F} [Field F] [LinearOrder F] [IsStrictOrderedRing F] [FloorRing F] :
    (∀ r g b : Exact F outside, 0 ≤ r ∧ r ≤ 1 → 0 ≤ g ∧ g ≤ 1 → 0 ≤ b ∧ b ≤ 1 → ∃ p c, Pen.ofRgb (.list [r, g, b]) = .ok p ∧
      (0 ≤ p.hue ∧ p.hue < 360) ∧ (0 ≤ p.saturation ∧ p.saturation ≤ 1) ∧ (0 ≤ p.brightness ∧ p.brightness ≤ 1) ∧
      Pen.colourText p.hue p.saturation p.brightness = .ok (Pen.hashText c) ∧ Near (F := Exact F outside) c r g b) ∧
    ∀ i j k : Nat, i ≤ 255 → j ≤ 255 → k ≤ 255 → ∀ (x y heading : Number (Exact F outside)) opacity,
      ∃ t, Turtle.ofPen (.list [(i : Exact F outside) / 255, (j : Exact F outside) / 255, (k : Exact F outside) / 255]) x y heading opacity = .ok t ∧
        ∀ rest, KeepsPen t rest → ∃ steps, Recorder.steps (opening t ++ rest) = .ok steps ∧ ∀ s ∈ steps,
          s.colour = Pen.hashText ⟨i, j, k⟩ ∧ Colour.ofText (Exact F outside) s.colour = .ok ⟨i, j, k⟩ ∧
          ∃ alpha, Picture.fill s.colour s.opacity = .ok ⟨⟨i, j, k⟩, alpha⟩ := by
  constructor
  · intro r g b red green blue
    have shows_ := ofUnits_shows red green blue
    obtain ⟨c, text, near⟩ := ofUnits_near red green blue
    exact ⟨_, c, ofRgb_unit red green blue, shows_.hue, shows_.saturation, shows_.brightness, text, near⟩
  · intro i j k small few low x y heading opacity
    have unit {n : Nat} (le : n ≤ 255) : 0 ≤ (n : Exact F outside) / 255 ∧ (n : Exact F outside) / 255 ≤ 1 := by
      have cast : (n : Exact F outside) ≤ 255 := by exact_mod_cast le
      exact ⟨by positivity, (div_le_one (by norm_num)).mpr cast⟩
    obtain ⟨c, text, near⟩ := ofUnits_near (unit small) (unit few) (unit low)
    obtain rfl := near_exact near
    obtain ⟨t, made, hue, saturation, brightness⟩ := ofPen_exact (ofRgb_unit (unit small) (unit few) (unit low)) x y heading opacity
    rw [← hue, ← saturation, ← brightness] at text
    refine ⟨t, made, fun rest keeps => ?_⟩
    obtain ⟨steps, resolved, colours⟩ := steps_kept text keeps
    refine ⟨steps, resolved, fun s member => ?_⟩
    rw [colours s member]
    obtain ⟨alpha, filled, _⟩ := fill_exact near.bytes s.opacity
    exact ⟨rfl, hashText_read _ near.bytes, alpha, filled⟩

/-- A colour between bytes, and a pen of bytes that draws a circle and a square. -/
theorem orange_kept :
    (∃ p c, Pen.ofRgb (.list [(9 : Exact ℚ axes) / 10, 1 / 3, 1 / 7]) = .ok p ∧
      Pen.colourText p.hue p.saturation p.brightness = .ok (Pen.hashText c) ∧ Near (F := Exact ℚ axes) c (9 / 10) (1 / 3) (1 / 7)) ∧
    ∃ t steps, Turtle.ofPen (.list [((255 : Nat) : Exact ℚ axes) / 255, ((128 : Nat) : Exact ℚ axes) / 255, ((1 : Nat) : Exact ℚ axes) / 255])
        (.int 0) (.int 0) (.int 0) 1 = .ok t ∧
      Recorder.steps (opening t ++ [.circle 0 0 5, .rectangle 3 4 1 2]) = .ok steps ∧
      ∀ s ∈ steps, Colour.ofText (Exact ℚ axes) s.colour = .ok ⟨255, 128, 1⟩ := by
  constructor
  · obtain ⟨p, c, made, _, _, _, text, near⟩ := hues_kept.1 (9 / 10 : Exact ℚ axes) (1 / 3) (1 / 7) (by decide +kernel) (by decide +kernel)
      (by decide +kernel)
    exact ⟨p, c, made, text, near⟩
  · obtain ⟨t, made, drawn⟩ := hues_kept.2 255 128 1 (by decide) (by decide) (by decide) (.int 0) (.int 0) (.int 0)
      (1 : Exact ℚ axes)
    obtain ⟨steps, resolved, read⟩ := drawn [.circle 0 0 5, .rectangle 3 4 1 2] (by intro _ _ _ _ member; simp at member)
    exact ⟨t, steps, made, resolved, fun s member => (read s member).2.1⟩

end Lindenmayer.Hues
