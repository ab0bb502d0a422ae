/-
EndpointCatalog.Log — what is logged on the way.

Log entries are part of an operation's answer, in the order in which they
were written. `Logged` carries them beside a result, and keeps what was
logged before a failure.
-/
import EndpointCatalog.Failure

namespace EndpointCatalog

/-- How serious a log entry is. -/
inductive LogLevel where
  | debug
  | info
  | warning
deriving DecidableEq, Repr

/-- The name of a level. -/
def LogLevel.toString : LogLevel → String
  | .debug => "DEBUG"
  | .info => "INFO"
  | .warning => "WARNING"

/-- A line of the log. -/
structure LogEntry where
  level : LogLevel
  message : String
deriving DecidableEq, Repr

/-- A log, first entry first. -/
abbrev Log := List LogEntry

/-- A result or a failure, with what is logged on the way to it. -/
abbrev Logged := ExceptT Failure (StateM Log)

namespace Logged

/-- Writes a line of the log. -/
def log (level : LogLevel) (message : String) : Logged Unit :=
  modifyThe Log (· ++ [⟨level, message⟩])

/-- The result, and the log from an empty one on. -/
def start {α : Type} (x : Logged α) : Except Failure α × Log := (ExceptT.run x).run []

end Logged

end EndpointCatalog
