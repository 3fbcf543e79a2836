import Lindenmayer.Drawing.Params
import Lindenmayer.Value.Pairs

/-!
Well-known systems with parameters that draw them well on a square of 800. An orientation of -90
points up the page.
-/
namespace Lindenmayer

/-- A named system with the parameters of its drawing. -/
structure Preset (K : Type) where
  name : String
  rules : List (Char × String)
  seed : String
  forward : Number K := .int 15
  turn : Number K := .int 45
  iterations : Nat := 6
  startX : Number K := .int 0
  startY : Number K := .int 0
  orientation : Number K := .int 0
  pen : List (Number K)
  notes : String := ""

namespace Preset

variable {K : Type}

/-- The table of a preset's rules. -/
def table (p : Preset K) : RuleTable :=
  RuleTable.ofRules (p.rules.map fun r => (Symbol.ofChar r.1, Sequence.ofString r.2))

/-- The system of a preset. -/
def system (p : Preset K) : Derivation := Derivation.start p.table (Sequence.ofString p.seed)

/-- The parameters of a preset's drawing. -/
def params (p : Preset K) : DrawParams K where
  forward := some p.forward
  turn := some p.turn
  startX := some p.startX
  startY := some p.startY
  orientation := some p.orientation
  iterations := some (.int p.iterations)
  pen := some (.list p.pen)

variable [Scalar K]

/-- A number of tenths. -/
def tenths (n : Nat) : Number K := .real (Scalar.decimal n 1)

/-- The pen of most presets. -/
def lightBlue : List (Number K) := [tenths 3, tenths 6, tenths 8]

/-- A pen without red. -/
def green (blue : Nat) : List (Number K) := [.int 0, tenths 8, tenths blue]

/-- The presets, in the order in which they are listed. -/
def all : List (Preset K) := [
  { name := "simple", rules := [('F', "F[t+FoF-F]")], seed := "F"
    forward := .int 50, turn := .int 90, startY := .int (-150), pen := lightBlue },
  { name := "koch", rules := [('F', "F+F--F+F")], seed := "F"
    forward := .int 5, turn := .int 60, iterations := 4, startX := .int (-200), pen := lightBlue },
  { name := "koch_snowflake", rules := [('F', "F+F--F+F")], seed := "F-F-F"
    forward := .int 5, turn := .int 60, iterations := 4, startX := .int (-200), startY := .int (-100)
    pen := lightBlue },
  { name := "peano", rules := [('F', "TF+F-F-toF-F+F+F+F-F")], seed := "3F"
    forward := .int 20, turn := .int 90, iterations := 3, startX := .int (-250), pen := lightBlue },
  { name := "peano_gosper"
    rules := [('X', "X+YF++YF-tFX--FXFX-YF+"), ('Y', "-FX+YFYF++YF+FX--FX-Y")], seed := "FX"
    forward := .int 10, turn := .int 60, iterations := 4, startX := .int (-200), startY := .int (-50)
    orientation := .int (-90), pen := green 2 },
  { name := "quadratic_koch", rules := [('F', "tF-F+F+FFF-F-F+F")], seed := "4F+F+F+F"
    forward := .int 10, turn := .int 90, iterations := 2, pen := lightBlue },
  { name := "thirty_two_segment"
    rules := [('F', "t-F+F-F-F+F+FF-F+F+FF+F-F-FF+FF-FF+F+F-FF-F-F+FF-F-F+F+F-F+")]
    seed := "F+F+F+F", forward := .int 5, turn := .int 90, iterations := 2, pen := lightBlue },
  { name := "sierpinski_triangle", rules := [('F', "G+F+Gt"), ('G', "F-G-F")], seed := "G"
    forward := .int 3, turn := .int 60, iterations := 8, startX := .int (-400), startY := .int (-350)
    pen := lightBlue },
  { name := "square_curve", rules := [('X', "XF-F+F-XF+F+XtF-F+F-X")], seed := "F+XF+F+XF"
    forward := .int 10, turn := .int 90, iterations := 4, pen := lightBlue },
  { name := "dragon_curve", rules := [('F', "F+G+t"), ('G', "-F-G")], seed := "F"
    forward := .int 12, turn := .int 90, iterations := 10, pen := lightBlue },
  { name := "hilbert", rules := [('L', "+RF-LFL-cFR+"), ('R', "-LF+RFR+FL-")], seed := "1L"
    forward := .int 12, turn := .int 90, startX := .int (-380), startY := .int (-380)
    pen := lightBlue },
  { name := "hilbert_curve", rules := [('L', "+RF-LFL-tFR+"), ('R', "-LF+RFR+FL-")], seed := "3L"
    forward := .int 25, turn := .int 90, iterations := 4, startX := .int (-200), startY := .int (-200)
    pen := lightBlue },
  { name := "hilbert_curve2"
    rules := [('X', "XFYFX+F+YFXFcY-F-XFYFX"), ('Y', "YFXFY-F-XFYFX+F+YFXFY")], seed := "2X"
    forward := .int 10, turn := .int 90, iterations := 4, startX := .int (-380), startY := .int (-380)
    pen := lightBlue },
  { name := "plant", rules := [('F', "F[-F]cF[+F][F]")], seed := "F"
    forward := .int 7, turn := .int 23, startY := .int 380, orientation := .int (-90), pen := green 3 },
  { name := "plant1", rules := [('F', "FF"), ('X', "F-[[cX]+X]+F[+FX]-X")], seed := "1X"
    forward := .int 3, turn := .int 13, iterations := 7, startX := .int (-50), startY := .int 380
    orientation := .int (-90), pen := green 2 },
  { name := "branch", rules := [('F', "FF-[F+F+Fc]+[+F-F-F][+++F+F-F---][---F+F-F---]")]
    seed := "1FFFF", forward := .int 12, turn := .int 20, iterations := 3, startY := .int 300
    orientation := .int (-90), pen := [.int 0, tenths 9, tenths 2] },
  { name := "penrose"
    rules := [('X', "PM++QM----YM[-PM----XM]++t"), ('Y', "+PM--QM[---XM--YM]+t"),
      ('P', "-XM++YM[+++PM++QM]-t"), ('Q', "--PM++++XM[+QM++++YM]--YMt"), ('M', "F"), ('F', "")]
    seed := "1[Y]++[Y]++[Y]++[Y]++[Y]", forward := .int 25, turn := .int 36, iterations := 7
    orientation := .int (-90), pen := [tenths 5, tenths 8, tenths 2]
    notes := "M only becomes F one generation later; F itself is deleted" }]

/-- The names of the presets in the order of their characters. -/
def knownNames : List String :=
  ((all : List (Preset K)).map (·.name)).mergeSort fun a b => !decide (b < a)

/-- The preset with a name. -/
def find? (name : Value) : Option (Preset K) :=
  match name.plain with
  | .text name => all.find? fun p => Text.isString name p.name
  | _ => none

/-- The preset with a name. The message that there is none shows the name. -/
def find (name : Value) : Except Failure (Preset K) :=
  match find? name with
  | some preset => .ok preset
  | none =>
    .error (if name.isKey then .showing name (.unknownPreset name (knownNames (K := K))) else .wrongKind)

end Preset

end Lindenmayer
