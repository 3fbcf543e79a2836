import Lindenmayer.Drawing.Trace
import Lindenmayer.Drawing.Picture
import Lindenmayer.Drawing.Svg
import Lindenmayer.Drawing.Canvas
import Lindenmayer.Storage.FileTree

/-!
Drawing a system: tracing it, resolving the primitives into steps, making an image of them in the
format that is asked for, and writing it into a file.
-/
namespace Lindenmayer

/-- The formats of images. -/
inductive Format where
  | png | svg
deriving DecidableEq, Repr, Inhabited

namespace Format

/-- The name of a format. -/
def name : Format → String
  | .png => "png"
  | .svg => "svg"

/-- The format with a name. -/
def ofText? (s : Text) : Option Format := [.png, .svg].find? fun f => s.isString f.name

/-- The format with a name. -/
def ofText (s : Text) : Except Failure Format :=
  match ofText? s with
  | some format => .ok format
  | none => .error (.unsupportedFormat s)

/-- The format that the extension of a file's name says, in any case of letters. -/
def ofFileName (path : Text) : Except Failure Format := ofText (Text.lower (Path.extension path))

end Format

/-- An image: a picture of pixels, or a text. -/
inductive Image (K : Type) where
  | png (picture : Picture K)
  | svg (text : Text)
deriving Inhabited

/-- How a system is drawn. -/
structure DrawOptions (K : Type) where
  trace : TraceOptions K
  fileName : Option Text
  frame : Frame
  background : Option Text
  fill : Bool
  padding : Int
  format : Option Text

/-- What is drawn. -/
structure Drawn (K : Type) where
  commands : Nat
  image : Image K
  steps : List (Step K)

variable {K : Type} [Scalar K]

omit [Scalar K] in
/-- Checks whether an image can be written: the text of one may have surrogates that stand alone. -/
def Image.checkEncoding : Image K → Except Failure Unit
  | .png _ => .ok ()
  | .svg text =>
    match Text.badRun? Text.isSurrogate text with
    | some (run, first) => .error (.notEncodable run first)
    | none => .ok ()

/-- The image of steps. -/
def Image.ofSteps (format : Format) (steps : List (Step K)) (frame : Frame) (padding : Int)
    (background : Option Text) (fill : Bool) : Except Failure (Image K) :=
  let records := steps.map Step.record
  match format with
  | .png => do return .png (← Picture.ofSteps records frame padding background fill)
  | .svg => do return .svg (← Svg.ofSteps records frame padding background fill)

namespace DrawOptions

omit [Scalar K] in
/-- The format asked for, or the one that the file's name says, or pixels. -/
def chosenFormat (o : DrawOptions K) : Except Failure Format :=
  match o.format, o.fileName with
  | some name, _ => Format.ofText name
  | none, some path => Format.ofFileName path
  | none, none => .ok .png

/-- The image of a trace. -/
def drawn (o : DrawOptions K) (format : Format) (trace : Trace K) : Except Failure (Drawn K) := do
  let steps ← Recorder.steps trace.primitives.toList
  let image ← Image.ofSteps format steps o.frame o.padding o.background o.fill
  return { commands := trace.commands, image, steps }

end DrawOptions

/-- Draws a system, without a file. -/
def Derivation.draw (s : Derivation) (o : DrawOptions K) : Derivation × Except Failure (Drawn K) :=
  match o.chosenFormat with
  | .error failure => (s, .error failure)
  | .ok format =>
    let (left, traced) := s.trace o.trace
    (left, traced.bind (o.drawn format))

/-- Draws a system into bytes. -/
def Derivation.drawBytes (s : Derivation) (o : DrawOptions K) : Derivation × Except Failure (Drawn K) :=
  let (left, result) := s.draw o
  (left, do
    let drawn ← result
    drawn.image.checkEncoding
    return drawn)

omit [Scalar K] in
/-- Writes an image into a file. Of one that cannot be encoded an empty file is left. -/
def Image.write (image : Image K) (path : Text) (files : FileTree (Image K)) :
    Except (Failure × FileTree (Image K)) (FileTree (Image K)) :=
  match image.checkEncoding with
  | .ok () => files.write path image
  | .error failure => do
    let written ← files.write path (.svg [])
    .error (failure, written)

/-- Draws a system into a file, if one is named. -/
def Derivation.drawFile (s : Derivation) (o : DrawOptions K) (files : FileTree (Image K)) :
    Derivation × FileTree (Image K) × Except Failure (Drawn K) :=
  let (left, result) := s.draw o
  match result, o.fileName with
  | .ok drawn, some path =>
    match drawn.image.write path files with
    | .ok written => (left, written, .ok drawn)
    | .error (failure, files) => (left, files, .error failure)
  | result, _ => (left, files, result)

/-- The steps of a system on a canvas. -/
def Derivation.drawingSteps (s : Derivation) (o : TraceOptions K) (frame : Frame) (padding : Int) :
    Derivation × Except Failure (List (CanvasStep K)) :=
  let (left, traced) := s.trace o
  (left, traced.bind fun trace => do
    CanvasStep.ofSteps (← Recorder.steps trace.primitives.toList) frame padding)

end Lindenmayer
