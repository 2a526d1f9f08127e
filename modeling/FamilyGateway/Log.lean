/-!
# Log lines

What happens beside the results of an operation is told in log lines. Operations
return the lines they write, oldest first; nothing here prints them.
-/

set_option autoImplicit false

namespace FamilyGateway

/-- How much a log line matters. -/
inductive LogLevel where
  | warn
  | error
  deriving DecidableEq, Repr

/-- The word for a level in front of a line. -/
def LogLevel.name : LogLevel → String
  | warn => "WARN"
  | error => "ERROR"

/-- A line of the log. -/
structure LogLine where
  level : LogLevel
  text : String
  deriving DecidableEq, Repr

namespace LogLine

/-- A warning. -/
def warn (text : String) : LogLine := ⟨.warn, text⟩

/-- An error. -/
def error (text : String) : LogLine := ⟨.error, text⟩

/-- A line as it is shown, its level in front. -/
def render (line : LogLine) : String := s!"{line.level.name} {line.text}"

end LogLine

end FamilyGateway
