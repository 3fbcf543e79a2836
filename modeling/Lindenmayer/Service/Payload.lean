import Lindenmayer.Preset
import Lindenmayer.Settings
import Lindenmayer.Scalar.Double

/-!
What a request asks to be drawn: a preset or rules and a seed of its own, with parameters that it
overrides. `Payload.resolve` also holds the request to the limits of the settings.
-/
namespace Lindenmayer.Payload

/-- A field of a payload that is there and not null. -/
def present? (payload : Value) (name : String) : Option Value :=
  match payload.field? name with
  | some .null => none
  | found => found

/-- A number of a payload; integers are made doubles. -/
def number (name : String) : Value → Except Failure (Number Float)
  | .int n => do return .real (← Scalar.convert n)
  | .float x => .ok (.real x)
  | _ => .error (.parameterNotNumber name)

/-- The number of a field, if it is there. -/
def numberField (payload : Value) (name : String) : Except Failure (Option (Number Float)) :=
  match present? payload name with
  | none => .ok none
  | some value => some <$> number name value

/-- A seed of random numbers. -/
def rngSeed : Value → Except Failure Value
  | .int n => if 0 ≤ n then .ok (.int n) else .error .rngSeedNotNatural
  | _ => .error .rngSeedNotNatural

/-- A switch of a payload, or what stands in for it. -/
def flag (payload : Value) (name : String) (usual : Bool) : Except Failure Bool :=
  match payload.field? name with
  | none => .ok usual
  | some (.bool b) => .ok b
  | some _ => .error (.parameterNotFlag name)

/-- The preset that a value names. That there is none is for the asker to know. -/
def preset (name : Value) : Except Failure (Preset Float) :=
  match Preset.find name with
  | .error (.unknownPreset name known) => .error (.noSuchPreset name known)
  | found => found

/-- Whether a value is a text. -/
def isText : Value → Bool
  | .text _ => true
  | _ => false

/-- The system of a payload's own rules and seed. -/
def ownSystem (payload : Value) : Except Failure Derivation :=
  match payload.field? "rules", payload.field? "seed" with
  | some (.object fields), seed =>
    if !fields.all fun f => isText f.2 then .error .rulesNotTexts
    else
      match seed with
      | some (.text s) => if s.isEmpty then .error .seedNotText else Derivation.ofValues (.object fields) (.text s)
      | _ => .error .seedNotText
  | _, _ => .error .rulesNotTexts

/-- The system of a payload and the parameters that come with it: a preset's if one is named. -/
def system (payload : Value) : Except Failure (Derivation × DrawParams Float) :=
  match payload.field? "preset" with
  | some name =>
    if name.truthy then do
      let found ← preset name
      return (found.system, found.params)
    else do return (← ownSystem payload, {})
  | none => do return (← ownSystem payload, {})

/-- The parameters that a payload overrides. -/
def overrides (payload : Value) : Except Failure (DrawParams Float) := do
  let forward ← numberField payload "forward"
  let turn ← numberField payload "turn"
  let startX ← numberField payload "startingx"
  let startY ← numberField payload "startingy"
  let orientation ← numberField payload "starting_orientation"
  let iterations := present? payload "iterations"
  let seed ← (present? payload "rng_seed").mapM rngSeed
  return { forward, turn, startX, startY, orientation, iterations, rngSeed := seed }

/-- The integer that a value counts as; the truth values count as one and zero. -/
def integer? : Value → Option Int
  | .int n => some n
  | .bool b => some (if b then 1 else 0)
  | _ => none

/-- Holds a system to the limits: on the number of generations, and on the length of the last. -/
def checkLimits (settings : Settings) (s : Derivation) (iterations : Value) : Except Failure Unit := do
  match integer? iterations with
  | some n => if settings.maxIterations < n then .error (.tooManyIterations settings.maxIterations)
  | none => pure ()
  let generations ← generationCount iterations
  let length := s.rules.expandedLength generations s.seed
  if settings.maxSymbols < length then
    .error (.expansionTooLong (← writable length) settings.maxSymbols)

/-- What is drawn for a payload: the system, and the parameters with the number of generations. -/
def resolve (settings : Settings) (payload : Value) : Except Failure (Derivation × DrawParams Float) :=
  match payload with
  | .object _ => do
    let (s, base) ← system payload
    let params := (← overrides payload).overriding base
    let iterations := params.iterations.getD DrawParams.usualIterations
    checkLimits settings s iterations
    return (s, { params with iterations := some iterations })
  | _ => .error .bodyNotObject

end Lindenmayer.Payload
