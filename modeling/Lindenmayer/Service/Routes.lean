import Lindenmayer.Service.Query
import Lindenmayer.Service.Payload
import Lindenmayer.Animation

/-!
The service: it lists presets, draws, expands and animates systems that requests ask for, and keeps
saved drawings and the frames of the last animation. `Service.answer` takes a request to the one
handler of its path and method.
-/
namespace Lindenmayer

/-- A running service: its settings, the files that it saved, and the capture of its animations. -/
structure Service where
  settings : Settings
  files : FileTree (Image Float)
  capture : Capture String

namespace Service

/-- A service with an empty directory for its files. -/
def start (settings : Settings) : Service :=
  let bare : FileTree (Image Float) := .bare []
  let capture : Capture String :=
    { every := Capture.usualEvery.toNat, label := none, frames := #[], offered := 0, finished := false }
  match bare.makeDirectories (Path.normalize [] settings.outputDir) with
  | .ok files => { settings, files, capture }
  | .error (_, files) => { settings, files, capture }

/-- The square frame of the settings. -/
def frame (s : Service) : Frame := ⟨s.settings.imageSize, s.settings.imageSize⟩

/-- The path of a file in the directory of the service. -/
def pathOf (s : Service) (name : Text) : Text := Path.join s.settings.outputDir name

/-! ### Values in answers -/

/-- A number as it was given. -/
def numberValue : Number Float → Value
  | .int n => .int n
  | .real x => .float x

/-- The parameters of a preset by their names. -/
def presetFields (p : Preset Float) : List (String × Value) := [
  ("name", .string p.name),
  ("rules", .object (p.rules.map fun r => ([Text.ofChar r.1], .string r.2))),
  ("seed", .string p.seed), ("notes", .string p.notes), ("forward", numberValue p.forward),
  ("turn", numberValue p.turn), ("iterations", .int p.iterations),
  ("startingx", numberValue p.startX), ("startingy", numberValue p.startY),
  ("starting_orientation", numberValue p.orientation),
  ("starting_pen", .list (p.pen.map numberValue))]

/-- A point by its coordinates. -/
def pointValue (p : Point Float) : Value := .record [("x", .float p.x), ("y", .float p.y)]

/-- A canvas step by its fields. -/
def stepValue (s : CanvasStep Float) : Value :=
  let paint : List (String × Value) := [("color", .text s.step.colour), ("opacity", .float s.step.opacity)]
  .record (match s.step.shape with
    | .line start stop width =>
      [("type", .string StepType.line.name), ("start", pointValue start), ("end", pointValue stop)] ++
        paint ++ [("width", match s.lineWidth with | some n => .int n | none => .float width)]
    | .circle c radius =>
      [("type", .string StepType.circle.name), ("x", .float c.x), ("y", .float c.y),
        ("radius", .float radius)] ++ paint
    | .rectangle c width height =>
      [("type", .string StepType.rectangle.name), ("x", .float c.x), ("y", .float c.y),
        ("width", .float width), ("height", .float height)] ++ paint)

/-! ### Handlers -/

/-- The presets with everything that they say. -/
def presets : Response :=
  .granted (.record [("presets", .list (Preset.all.map fun p => .record (presetFields p)))])

/-- The format that a value names. -/
def offeredFormat (value : Value) : Except Failure Format :=
  match value with
  | .text s =>
    match Format.ofText? s with
    | some format => .ok format
    | none => .error .formatNotOffered
  | _ => .error .formatNotOffered

/-- Draws what a payload asks for. The format is looked at first. -/
def draw (s : Service) (payload format : Value) (fill : Bool) : Except Failure Response := do
  let format ← offeredFormat format
  let (found, params) ← Payload.resolve s.settings payload
  let options : DrawOptions Float :=
    { DrawOptions.usual (params.options none) with
      fileName := none, frame := s.frame, fill, format := some (Text.ofString format.name) }
  let drawn ← (found.drawBytes options).2
  return { status := 200, mediaType := some (Response.imageType format), content := .image drawn.image }

/-- Draws the preset that a query names. -/
def drawQuery (s : Service) (a : Address) : Response :=
  let read : Option (Except Failure Response) := do
    let name ← Request.parameter? a "preset"
    let iterations ← Request.optional a "iterations" Request.readGenerations
    let forward ← Request.optional a "forward" Request.readReal
    let turn ← Request.optional a "turn" Request.readReal
    let fit ← Request.optional a "fit" Request.readFlag
    let seed ← Request.optional a "rng_seed" Request.readInteger
    let int (n : Option Int) : Value := (n.map Value.int).getD .null
    let real (x : Option Float) : Value := (x.map Value.float).getD .null
    let payload := Value.record [("preset", .text name), ("iterations", int iterations),
      ("forward", real forward), ("turn", real turn), ("rng_seed", int seed)]
    return s.draw payload (.text ((Request.parameter? a "fmt").getD (Text.ofString "png"))) (fit.getD true)
  match read with
  | some result => .ofResult result
  | none => .misshapen

/-- Draws the system of a payload. -/
def drawPayload (s : Service) (payload : Value) : Except Failure Response := do
  let fill ← Payload.flag payload "fit" true
  s.draw payload ((payload.field? "fmt").getD (.string "png")) fill

/-- Expands the system of a payload, from the text of its seed to the text of its state. -/
def expand (s : Service) (payload : Value) : Except Failure Response := do
  let (found, params) ← Payload.resolve s.settings payload
  let generations := params.iterations.getD DrawParams.usualIterations
  let state ← found.rules.textAfter (← found.seed.toText) generations
  return .granted (.record [("state", .text state), ("length", .int state.length)])

/-- The steps of the system of a payload on the usual canvas. -/
def drawingSteps (s : Service) (payload : Value) : Except Failure Response := do
  let (found, params) ← Payload.resolve s.settings payload
  let steps ← (found.drawingSteps (params.options none) Canvas.usualFrame Canvas.usualPadding).2
  return .granted (.record [("steps", .list (steps.map stepValue))])

/-- The name of the file that a payload is saved in. -/
def savedName (payload : Value) : Except Failure Text :=
  match payload.field? "filename" with
  | none => .ok (Text.ofString "lsystem.png")
  | some value =>
    if !value.truthy then .ok (Text.ofString "lsystem.png")
    else
      match value with
      | .text name => if Path.baseName name = name then .ok name else .error .directoryInName
      | _ => .error .wrongKind

/-- Draws the system of a payload into a file, and says which and of how many symbols. -/
def save (s : Service) (payload : Value) : Service × Response :=
  let request : Except Failure (Text × Derivation × DrawParams Float) := do
    let name ← savedName payload
    return (name, ← Payload.resolve s.settings payload)
  match request with
  | .error failure => (s, .ofFailure failure)
  | .ok (name, found, params) =>
    let options := { DrawOptions.usual (params.options none) with fileName := some (s.pathOf name) }
    let (_, files, result) := found.drawFile options s.files
    let saved := { s with files }
    match result with
    | .error failure => (saved, .ofFailure failure)
    | .ok drawn =>
      (saved, .granted (.record [("file", .text name), ("commands", .int drawn.commands)]))

/-- The file with a name. -/
def file (s : Service) (name : Text) : Response :=
  match s.files.find (s.pathOf (Path.baseName name)) with
  | .file image =>
    { status := 200, cache := some "no-store", content := .image image }
  | .directory => .bare 500
  | .nothing => .json 404 none (.record [("error", .string "File not found")])

/-- Animates the preset that a query names: draws its steps one by one and sends every frame. -/
def animate (s : Service) (encoder : Encoder String) (a : Address) : Service × Response :=
  let read : Option Value := do
    let name ← Request.parameter? a "preset"
    let iterations ← Request.optional a "iterations" Request.readGenerations
    let _ ← Request.optional a "step_delay" Request.readDelay
    return Value.record [("preset", .text name), ("iterations", (iterations.map Value.int).getD .null)]
  match read with
  | none => (s, .misshapen)
  | some payload =>
    let prepared : Except Failure (Value × List (CanvasStep Float)) := do
      let (found, params) ← Payload.resolve s.settings payload
      let steps ← (found.drawingSteps (params.options none) s.frame Canvas.usualPadding).2
      return (params.iterations.getD DrawParams.usualIterations, steps)
    match prepared with
    | .error failure => (s, .ofFailure failure)
    | .ok (iterations, steps) =>
      let label := Value.record [("preset", (payload.field? "preset").getD .null),
        ("iterations", iterations), ("steps", .int steps.length)]
      let animation := Animation.start s.frame ⟨0, 0, 0⟩ (steps.map fun c => c.step.record)
        (some (s.capture.begin (some label)))
      let (last, frames, _) := animation.run encoder animation.length #[]
      let text := frames.toList.flatMap fun frame => Text.ofString (Animation.part frame)
      ({ s with capture := last.capture.getD s.capture },
        { status := 200, mediaType := some "multipart/x-mixed-replace; boundary=frame", content := .text text })

/-- The frames of the last animation. -/
def snapshots (s : Service) : Response :=
  match s.capture.snapshot with
  | none =>
    .json 202 (some "no-store") (.record [("status", .string "pending"), ("frames", .list [])])
  | some found =>
    let encoded (frame : String) : Value :=
      .string (String.ofList (Text.base64 (Text.bytes (Text.ofString frame))))
    .json 200 (some "no-store, no-cache, must-revalidate, max-age=0")
      (.record [("status", .string "ready"), ("render", found.label.getD .null),
        ("frames", .list (found.frames.map encoded))])

/-! ### Paths -/

/-- What a path leads to. -/
inductive Route where
  | presets | draw | expand | drawingSteps | save | animate | snapshots
  | file (name : Text)
  /-- A page about the service itself. -/
  | about
deriving DecidableEq, Repr

/-- The paths without a parameter. -/
def routes : List (String × Route) := [
  ("/presets", .presets), ("/drawlsystem", .draw), ("/expand", .expand),
  ("/drawing_steps", .drawingSteps), ("/save_lsystem", .save), ("/animate_lsystem", .animate),
  ("/lsystem_snapshots", .snapshots), ("/openapi.json", .about), ("/docs", .about),
  ("/docs/oauth2-redirect", .about), ("/redoc", .about)]

/-- The paths of files, up to the name. -/
def filePrefix : Text := Text.ofString "/lsystem_file/"

/-- What a path leads to. A line's end may stand behind a path without a parameter. -/
def route? (path : Text) : Option Route :=
  match routes.find? fun r => path.isString r.1 || path == Text.ofString r.1 ++ [.ofNat 10] with
  | some (_, route) => some route
  | none =>
    let name := path.drop filePrefix.length
    if filePrefix.isPrefixOf path && !name.isEmpty && !name.any Path.isSlash then some (.file name)
    else none

/-- What an address leads to, and the address that led there. One that leads nowhere is tried with
    its last slashes changed, so many times. -/
def locate? : (tries : Nat) → Address → Option (Route × Address)
  | 0, _ => none
  | tries + 1, a =>
    match route? a.path with
    | some route => some (route, a)
    | none =>
      if a.path = [Text.ofChar '/'] ∨ (route? (Address.toggledPath a.path)).isNone then none
      else locate? tries a.toggled

/-- How often an asker is sent to another address. -/
def mostTries : Nat := 20

/-- Hands the object in a body to a handler. -/
def withPayload (s : Service) (r : Request) (handle : Value → Service × Response) :
    Service × Response :=
  match r.payload with
  | .object payload => handle payload
  | .misshapen => (s, .misshapen)
  | .unreadable => (s, .unreadable)
  | .untold => (s, .bare 500)

/-- Answers a request. -/
def answer (encoder : Encoder String) (s : Service) (r : Request) : Service × Response :=
  let unchanged (result : Except Failure Response) : Service × Response := (s, .ofResult result)
  match locate? (mostTries + 1) r.address with
  | none => (s, .notFound)
  | some (route, a) =>
    match route, r.method.toUpper with
    | .presets, "GET" => (s, presets)
    | .draw, "GET" => (s, s.drawQuery a)
    | .draw, "POST" => s.withPayload r fun payload => unchanged (s.drawPayload payload)
    | .expand, "POST" => s.withPayload r fun payload => unchanged (s.expand payload)
    | .drawingSteps, "POST" => s.withPayload r fun payload => unchanged (s.drawingSteps payload)
    | .save, "POST" => s.withPayload r s.save
    | .file name, "GET" => (s, s.file name)
    | .animate, "GET" => s.animate encoder a
    | .snapshots, "GET" => (s, s.snapshots)
    | .about, "GET" | .about, "HEAD" => (s, .bare 200)
    | _, _ => (s, .wrongMethod)

end Service

end Lindenmayer
