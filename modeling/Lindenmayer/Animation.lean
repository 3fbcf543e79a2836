import Lindenmayer.Capture
import Lindenmayer.Drawing.Canvas

/-!
Animations: steps are drawn on a canvas one by one, and after each the canvas is encoded into a
frame, offered to a capture if there is one, and passed on. After the last step the finished canvas
is encoded once more and closes the capture. An animation goes on only when the next frame is asked
for; the canvas is made for the first.
-/
namespace Lindenmayer

/-- An animation under way. -/
structure Animation (K F : Type) where
  frame : Frame
  background : Colour
  /-- The canvas, once it is made. -/
  canvas : Option Canvas
  rest : List (StepRecord K)
  capture : Option (Capture F)
  /-- How many frames were encoded, also in vain. -/
  encoded : Nat
  /-- Whether nothing comes any more. -/
  closed : Bool

/-- What comes next of an animation. -/
inductive Animation.Event (F : Type) where
  | frame (f : F)
  | failed (failure : Failure)
  | ended

/-- How a canvas is encoded, given how often it was done before; it may fail. -/
abbrev Encoder (F : Type) := Nat → Canvas → Option F

namespace Animation

variable {K F : Type}

/-- An animation that has not begun. -/
def start (frame : Frame) (background : Colour) (steps : List (StepRecord K))
    (capture : Option (Capture F)) : Animation K F :=
  { frame, background, canvas := none, rest := steps, capture, encoded := 0, closed := false }

/-- The canvas as it is, or a new one. -/
def currentCanvas (a : Animation K F) : Except Failure Canvas :=
  match a.canvas with
  | some canvas => .ok canvas
  | none => Canvas.blank a.frame a.background

/-- The calls on the canvas, the first first. -/
def calls (a : Animation K F) : List Canvas.Call := ((a.canvas.map (·.calls)).getD []).reverse

/-- The animation without anything to come. -/
def close (a : Animation K F) : Animation K F := { a with rest := [], closed := true }

/-- Encodes a canvas, and hands the frame to the capture. -/
def encode (encoder : Encoder F) (take : Capture F → F → Capture F) (canvas : Canvas)
    (a : Animation K F) : Animation K F × Event F :=
  let tried := { a with canvas := some canvas, encoded := a.encoded + 1 }
  match encoder a.encoded canvas with
  | none => (tried.close, .failed .encodingFailed)
  | some frame => ({ tried with capture := a.capture.map (take · frame) }, .frame frame)

/-- Goes on to the next frame. -/
def next [Scalar K] (encoder : Encoder F) (a : Animation K F) : Animation K F × Event F :=
  if a.closed then (a, .ended)
  else
    match a.currentCanvas with
    | .error failure => (a.close, .failed failure)
    | .ok canvas =>
      match a.rest with
      | step :: rest =>
        match canvas.draw step with
        | .error failure => ({ a with canvas := some canvas }.close, .failed failure)
        | .ok canvas => encode encoder (fun c f => (c.offer f).1) canvas { a with rest }
      | [] => encode encoder Capture.finish canvas a.close

/-- Goes on for so many frames at most; gives the frames and why it stopped early, if it failed. -/
def run [Scalar K] (encoder : Encoder F) :
    (frames : Nat) → Array F → Animation K F → Animation K F × Array F × Option Failure
  | 0, found, a => (a, found, none)
  | n + 1, found, a =>
    match a.next encoder with
    | (a, .frame f) => run encoder n (found.push f) a
    | (a, .failed failure) => (a, found, some failure)
    | (a, .ended) => (a, found, none)

/-- The most frames that can come. -/
def length (a : Animation K F) : Nat := a.rest.length + 1

/-- What stands before and after a frame in a stream of many parts. -/
def part (frame : String) : String :=
  "--frame\r\nContent-Type: image/jpeg\r\n\r\n" ++ frame ++ "\r\n"

end Animation

end Lindenmayer
