import Lindenmayer.Environment

/-!
Loggers and their levels. A logger takes its level anew whenever it is asked for; its handler keeps
the level of the first time.
-/
namespace Lindenmayer

/-- A logger: its level, and the level of its handler, if it has one. -/
structure Logger where
  name : Text
  level : Nat
  handler : Option Nat
deriving DecidableEq, Repr, Inhabited

/-- The loggers that there are. -/
abbrev Loggers := List Logger

namespace Logger

/-- How a handler words a record. -/
def handlerFormat : String := "%(asctime)s - %(name)s - %(levelname)s - %(message)s"

/-- The wording that is no level although it goes by a name like one. -/
def basicFormat : String := "%(levelname)s:%(name)s:%(message)s"

/-- The level of information. -/
def info : Nat := 20

/-- The levels by their names. -/
def levels : List (String × Nat) := [
  ("NOTSET", 0), ("DEBUG", 10), ("INFO", info), ("WARN", 30), ("WARNING", 30), ("ERROR", 40),
  ("CRITICAL", 50), ("FATAL", 50)]

/-- The level that a text names in any case of letters; others name that of information. The names of
    a wording and of the table of wordings name no level at all. -/
def levelOf (given : Text) : Except Failure Nat :=
  let name := Text.upper given
  match levels.find? fun level => name.isString level.1 with
  | some (_, level) => .ok level
  | none =>
    if name.isString "BASIC_FORMAT" then .error (.unknownLevel basicFormat)
    else if name.isString "_STYLES" then .error .wrongKind
    else .ok info

/-- The variable that names the level. -/
def levelVariable : String := "LOG_LEVEL"

end Logger

namespace Loggers

/-- The logger with a name, at the level that a variable names; without one at that of information.
    It comes first among the loggers from then on. -/
def configure (loggers : Loggers) (name : Text) (level : Option Text) :
    Except Failure (Logger × Loggers) := do
  level.forM (Environment.checkVariable (Text.ofString Logger.levelVariable))
  let level ← Logger.levelOf (level.getD (Text.ofString "INFO"))
  let former := loggers.find? (·.name == name)
  let handler := (former.bind (·.handler)).getD level
  let logger : Logger := { name, level, handler := some handler }
  return (logger, logger :: loggers.filter (·.name != name))

end Loggers

end Lindenmayer
