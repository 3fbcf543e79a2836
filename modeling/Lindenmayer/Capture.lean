import Lindenmayer.Value.Pairs

/-!
Captures: a thinned set of the frames of one render. Every so many-th frame that is offered is kept,
and the last one always; a snapshot is only given when the render has finished.
-/
namespace Lindenmayer

/-- A capture under way, with its frames in order and what labels the render. -/
structure Capture (F : Type) where
  every : Nat
  label : Option Value
  frames : Array F
  offered : Nat
  finished : Bool
deriving Inhabited

/-- What a finished capture holds. -/
structure Snapshot (F : Type) where
  label : Option Value
  frames : List F
  offered : Nat
deriving Inhabited

namespace Capture

variable {F : Type}

/-- How many frames are offered for each that is kept, when nothing is said. -/
def usualEvery : Int := 50

/-- A capture without frames. -/
def create (every : Int) : Except Failure (Capture F) :=
  if every < 1 then .error (.everyNotPositive every)
  else .ok { every := every.toNat, label := none, frames := #[], offered := 0, finished := false }

/-- Begins anew, with a label or none. -/
def begin (c : Capture F) (label : Option Value) : Capture F :=
  { c with label, frames := #[], offered := 0, finished := false }

/-- Begins anew, with the object that a label stands for if it counts as given. -/
def start (c : Capture F) (label : Value) : Except Failure (Capture F) := do
  if ← label.counts then return c.begin (some (← label.toObject)) else return c.begin none

/-- Whether the next frame that is offered is kept. -/
def keepsNext (c : Capture F) : Bool := c.offered % c.every == 0

/-- Offers a frame; tells whether it was kept. -/
def offer (c : Capture F) (frame : F) : Capture F × Bool :=
  let frames := if c.keepsNext then c.frames.push frame else c.frames
  ({ c with frames, offered := c.offered + 1 }, c.keepsNext)

/-- Takes the last frame. -/
def finish (c : Capture F) (frame : F) : Capture F :=
  { c with frames := c.frames.push frame, finished := true }

/-- What the capture holds, once it has finished. -/
def snapshot (c : Capture F) : Option (Snapshot F) :=
  if c.finished then some ⟨c.label, c.frames.toList, c.offered⟩ else none

end Capture

end Lindenmayer
