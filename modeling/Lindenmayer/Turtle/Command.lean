import Lindenmayer.Sequence
import Lindenmayer.Scalar.Basic

/-!
The symbols that a turtle obeys. All others are passed over, so that rules can have symbols that
only matter in expanding.
-/
namespace Lindenmayer

/-- What a symbol orders a turtle to do. -/
inductive Command where
  /-- One step. -/
  | forward
  /-- One step back, keeping the heading. -/
  | backward
  /-- Half a step. -/
  | halfForward
  /-- Half a step back, turning round. -/
  | halfBackward
  /-- Lifts the pen. -/
  | penUp
  /-- Lowers the pen. -/
  | penDown
  /-- Turns by the turn angle, back if asked. -/
  | turn (back : Bool)
  /-- Takes one of five turn angles at random. -/
  | randomTurn
  /-- Takes a hue at random. -/
  | randomHue
  /-- Shifts the hue by so many degrees. -/
  | hueShift (degrees : Nat)
  /-- Takes a saturation at random. -/
  | randomSaturation
  /-- Takes an opacity at random. -/
  | randomOpacity
  /-- Lengthens the step. -/
  | growStep (length : Nat)
  /-- Shortens the step. -/
  | shrinkStep (length : Nat)
  /-- Sets the width of the pen, in halves. -/
  | penWidth (halves : Nat)
  /-- Turns by so many degrees. -/
  | nudge (degrees : Int)
  /-- Draws a circle here. -/
  | circle
  /-- Draws a square here. -/
  | square
  /-- Remembers this place. -/
  | push
  /-- Goes back to the place remembered last. -/
  | pop
  /-- Calls the hook. -/
  | asterisk
deriving DecidableEq, Repr, Inhabited

namespace Command

/-- The command of a character. -/
def ofChar? : Char → Option Command
  | 'F' | 'G' => some .forward
  | 'B' | 'V' => some .backward
  | 'f' => some .halfForward
  | 'b' => some .halfBackward
  | 'U' => some .penUp
  | 'D' => some .penDown
  | '+' => some (.turn false)
  | '-' => some (.turn true)
  | 'r' => some .randomTurn
  | 'T' => some .randomHue
  | 't' => some (.hueShift 5)
  | 'c' => some .randomSaturation
  | 'O' => some .randomOpacity
  | 'l' => some (.growStep 1)
  | 's' => some (.shrinkStep 1)
  | '1' => some (.penWidth 2)
  | '2' => some (.penWidth 4)
  | '3' => some (.penWidth 6)
  | '4' => some (.penWidth 8)
  | '5' => some (.penWidth 10)
  | '6' => some (.penWidth 12)
  | '7' => some (.penWidth 14)
  | '8' => some (.penWidth 16)
  | '9' => some (.penWidth 18)
  | 'n' => some (.penWidth 1)
  | '@' => some (.nudge 5)
  | '&' => some (.nudge (-5))
  | 'o' => some .circle
  | 'q' => some .square
  | '[' => some .push
  | ']' => some .pop
  | '*' => some .asterisk
  | _ => none

/-- The command of a symbol; only ASCII characters have one. -/
def ofSymbol? (s : Symbol) : Option Command :=
  if s.toNat < 128 then ofChar? (Char.ofNat s.toNat) else none

/-- If one letter alone has a command, a symbol with that command is the letter. -/
theorem ofSymbol?_letter {s : Symbol} {command : Command} {l : Char}
    (only : ∀ c, ofChar? c = some command → c = l) (ordered : ofSymbol? s = some command) :
    s = .ofChar l := by
  rw [ofSymbol?] at ordered
  by_cases ascii : s.toNat < 128
  · rw [if_pos ascii] at ordered
    have valid : s.toNat.isValidChar := .inl (by omega)
    rw [← only _ ordered, Symbol.ofChar, Char.ofNat, dif_pos valid]
    rfl
  · rw [if_neg ascii] at ordered
    cases ordered

/-- The kind of a command as it is reported. -/
def name : Command → String
  | .forward => "FORWARD"
  | .backward => "BACKWARD"
  | .halfForward => "HALF_FORWARD"
  | .halfBackward => "HALF_BACKWARD"
  | .penUp => "PEN_UP"
  | .penDown => "PEN_DOWN"
  | .turn _ => "TURN"
  | .randomTurn => "RANDOM_TURN"
  | .randomHue => "RANDOM_HUE"
  | .hueShift _ => "HUE_SHIFT"
  | .randomSaturation => "RANDOM_SATURATION"
  | .randomOpacity => "RANDOM_OPACITY"
  | .growStep _ => "GROW_STEP"
  | .shrinkStep _ => "SHRINK_STEP"
  | .penWidth _ => "PEN_WIDTH"
  | .nudge _ => "NUDGE"
  | .circle => "CIRCLE"
  | .square => "SQUARE"
  | .push => "PUSH"
  | .pop => "POP"
  | .asterisk => "ASTERISK"

/-- The number that goes with a command, as it is reported. -/
def argument? {K : Type} [Scalar K] : Command → Option K
  | .turn back => some (Scalar.ofInt (if back then -1 else 1))
  | .hueShift degrees => some (Scalar.ofInt degrees)
  | .growStep length => some (Scalar.ofInt length)
  | .shrinkStep length => some (Scalar.ofInt length)
  | .penWidth halves => some (Scalar.halves halves)
  | .nudge degrees => some (Scalar.ofInt degrees)
  | _ => none

end Command

end Lindenmayer
