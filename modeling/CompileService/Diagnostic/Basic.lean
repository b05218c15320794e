import CompileService.Text.Quoted

/-!
# Diagnostics

What a type checker has to say about a source: messages, each with a severity, a line and a text.
-/

namespace CompileService

/-- How serious a diagnostic is. -/
inductive Severity where
  | warning
  | error
deriving DecidableEq

/-- The name of a severity. -/
def Severity.name : Severity → String
  | .warning => "WARNING"
  | .error => "ERROR"

/-- One message of the type checker. -/
structure Diagnostic where
  severity : Severity
  /-- The line that the message is about; it may lie before the first line of the source. -/
  line : Int
  text : Text
deriving DecidableEq

end CompileService
