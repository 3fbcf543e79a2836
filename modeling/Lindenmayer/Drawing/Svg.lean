import Lindenmayer.Drawing.Fit
import Lindenmayer.Text.Case
import Lindenmayer.Decimal.Fixed

/-!
Pictures as SVG text. Numbers are written with three places at most (`Svg.number`); colours and the
background are written as they were given.
-/
namespace Lindenmayer.Svg

variable {K : Type} [Scalar K]

/-- A number with so many places, without zeros at the end of them and without a point that is last.
    Zero loses its sign before it is written. -/
def number (places : Nat) (x : K) : List Char :=
  let cs := Scalar.fixed places (if Scalar.isZero x then Scalar.zero else x)
  if cs.contains '.' then Decimal.stripEnd '.' (Decimal.stripEnd '0' cs) else cs

/-- A number with a number of places that is given. -/
def numberWith (places : Option Int) (x : K) : Except Failure (List Char) :=
  match places with
  | some (.ofNat places) => .ok (number places x)
  | _ => .error .placesMissing

/-- A number as the text of a picture has it. -/
def coordinate (x : K) : String := String.ofList (number 3 x)

/-- A piece of a line: plain characters, or a text as it was given. -/
inductive Piece where
  | plain (s : String)
  | given (s : Text)

/-- The text of pieces. -/
def join (pieces : List Piece) : Text :=
  pieces.flatMap fun
    | .plain s => Text.ofString s
    | .given s => s

/-- An attribute. -/
def assign (name value : String) : String := " " ++ name ++ "=\"" ++ value ++ "\""

/-- Attributes of numbers. -/
def assignAll (pairs : List (String × K)) : String :=
  String.join (pairs.map fun (name, x) => assign name (coordinate x))

/-- The pieces of a colour and its opacity. -/
def paint (name : String) (colour : Text) (opacity : String) : List Piece :=
  [.plain (" " ++ name ++ "=\""), .given colour, .plain ("\"" ++ assign (name ++ "-opacity") opacity)]

/-- Where a point comes to lie in the text's frame. -/
def place (f : Fit K) (p : Point K) : Point K :=
  ⟨p.x * f.scale + f.offsetX, p.y * f.scale + f.offsetY⟩

/-- The line of a shape. Sizes lose their sign, and the width of a line keeps it. -/
def element (f : Fit K) (colour : Text) (opacity : String) : Shape K → Text
  | .line start stop width =>
    let low := place f start
    let high := place f stop
    join (.plain ("  <line" ++ assignAll [("x1", low.x), ("y1", low.y), ("x2", high.x), ("y2", high.y)]) ::
      paint "stroke" colour opacity ++
      [.plain (assignAll [("stroke-width", width * f.scale)] ++ assign "stroke-linecap" "round" ++ " />")])
  | .circle centre radius =>
    let centre := place f centre
    let r := Scalar.abs radius * f.scale
    join (.plain ("  <circle" ++ assignAll [("cx", centre.x), ("cy", centre.y), ("r", r)]) ::
      paint "fill" colour opacity ++ [.plain " />"])
  | .rectangle centre width height =>
    let centre := place f centre
    let w := Scalar.abs width * f.scale
    let h := Scalar.abs height * f.scale
    join (.plain ("  <rect" ++ assignAll [("x", centre.x - Scalar.half w), ("y", centre.y - Scalar.half h),
        ("width", w), ("height", h)]) ::
      paint "fill" colour opacity ++ [.plain " />"])

/-- The line of a step, none for a step of no known type. -/
def lineOf (f : Fit K) (r : StepRecord K) : Except Failure (Option Text) := do
  let colour ← r.readColour
  let opacity := coordinate (← r.readOpacity)
  return (← r.readShape).map (element f colour opacity)

/-- Whether a background is painted: not without one and not with the one called none. -/
def isPainted (background : Text) : Bool :=
  !background.isEmpty && !(Text.lower background).isString "none"

/-- The line that paints the background. -/
def backgroundLine (frame : Frame) (background : Text) : Text :=
  join [.plain ("  <rect x=\"0\" y=\"0\"" ++ assign "width" (toString frame.width) ++
    assign "height" (toString frame.height) ++ " fill=\""), .given background, .plain "\" />"]

/-- The two lines before everything else. -/
def head (frame : Frame) : List Text :=
  let w := toString frame.width
  let h := toString frame.height
  [Text.ofString "<?xml version=\"1.0\" encoding=\"UTF-8\"?>",
    Text.ofString ("<svg xmlns=\"http://www.w3.org/2000/svg\" version=\"1.1\"" ++ assign "width" w ++
      assign "height" h ++ assign "viewBox" ("0 0 " ++ w ++ " " ++ h) ++ ">")]

/-- The SVG text of steps. -/
def ofSteps (steps : List (StepRecord K)) (frame : Frame) (padding : Int)
    (background : Option Text) (fill : Bool) : Except Failure Text := do
  let f ← Fit.ofSteps steps frame padding fill
  let painted := match background with
    | some name => if isPainted name then [backgroundLine frame name] else []
    | none => []
  let drawn := (← steps.mapM (lineOf f)).filterMap id
  let lines := head frame ++ painted ++ drawn ++ [Text.ofString "</svg>"]
  return lines.flatMap fun line => line ++ [Text.ofChar '\n']

end Lindenmayer.Svg
