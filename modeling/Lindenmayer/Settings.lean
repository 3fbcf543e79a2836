import Lindenmayer.Environment

/-!
Settings read from an environment. Settings that were read once can be kept
(`SettingsStore.cached`).
-/
namespace Lindenmayer

/-- What a deployment may choose. -/
structure Settings where
  maxIterations : Int := 10
  maxSymbols : Int := 2000000
  imageSize : Int := 800
  outputDir : Text := Text.ofString "static"
  logLevel : Text := Text.ofString "INFO"
deriving DecidableEq, Repr

namespace Settings

/-- What holds where nothing is said. -/
def usual : Settings := {}

/-- A variable that holds an integer above zero, or what stands in for it. -/
def positive (e : Environment) (name : String) (fallback : Int) : Except Failure Int :=
  match e.given? name with
  | none => .ok fallback
  | some value =>
    match Text.integer? value with
    | none => .error (.settingNotInteger name value)
    | some n => if n ≤ 0 then .error (.settingNotPositive name n) else .ok n

/-- Reads the settings; the first variable that is wrong is reported. -/
def ofEnvironment (e : Environment) : Except Failure Settings := do
  let maxIterations ← positive e "LSYSTEM_MAX_ITERATIONS" usual.maxIterations
  let maxSymbols ← positive e "LSYSTEM_MAX_SYMBOLS" usual.maxSymbols
  let imageSize ← positive e "LSYSTEM_IMAGE_SIZE" usual.imageSize
  return {
    maxIterations, maxSymbols, imageSize
    outputDir := (e.given? "LSYSTEM_OUTPUT_DIR").getD usual.outputDir
    logLevel := Text.upper ((e.given? "LOG_LEVEL").getD usual.logLevel) }

end Settings

/-- An environment, and the settings that were kept. -/
structure SettingsStore where
  environment : Environment
  kept : Option Settings
deriving Repr

namespace SettingsStore

/-- Nothing set and nothing kept. -/
def empty : SettingsStore := ⟨[], none⟩

/-- The settings that were kept; the first reading that succeeds is. -/
def cached (s : SettingsStore) : SettingsStore × Except Failure Settings :=
  match s.kept with
  | some settings => (s, .ok settings)
  | none =>
    match Settings.ofEnvironment s.environment with
    | .ok settings => ({ s with kept := some settings }, .ok settings)
    | .error failure => (s, .error failure)

end SettingsStore

end Lindenmayer
