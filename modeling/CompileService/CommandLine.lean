import CompileService.Service.Commands

/-!
# The command line

Without arguments the service is to listen for requests; with `--check` or `--compile` and the path
of a source it handles that one source and prints what came of it. The exit status is 0 for success,
1 for a source that is rejected and for a wrong command line, and 2 if there is no toolchain.
-/

namespace CompileService

/-- A server to be started. -/
structure Listener where
  application : Text
  host : Text
  port : Int
deriving DecidableEq

/-- What a command line comes to. -/
structure CommandLineResult where
  status : Nat
  printed : Text := []
  /-- The servers that are to be started. -/
  listeners : List Listener := []
deriving DecidableEq

namespace CommandLine

/-- What is printed about a wrong command line. -/
def usage : Text := lit "Usage: python -m playground.cli [--check <file> | --compile <file>]"

/-- The address that requests are listened for at. -/
def listener (s : Service) : Listener :=
  ⟨lit "playground.main:app", lit "0.0.0.0", s.settings.port⟩

/-- A line that is printed. -/
def printedLine (t : Text) : Text := t ++ [CodePoint.lineFeed]

/-- A diagnostic as a line. -/
def diagnosticLine (d : Diagnostic) : Text :=
  lit "[" ++ lit d.severity.name ++ lit "] line " ++ Text.ofInt d.line ++ lit ": " ++ d.text

/-- What is printed about an answer, and the exit status. -/
def ofResponse (s : Service) : Response → CommandLineResult
  | .checkOk id => ⟨0, printedLine (lit "Check OK: " ++ id), []⟩
  | .checkFailed [] rawOutput => ⟨1, printedLine rawOutput, []⟩
  | .checkFailed diagnostics _ => ⟨1, diagnostics.flatMap (printedLine ∘ diagnosticLine), []⟩
  | .compileOk id =>
    ⟨0, printedLine (lit "Compile OK: " ++ (s.generatedPath id (lit ".html")).toText), []⟩
  | .compileFailed rawOutput => ⟨1, printedLine rawOutput, []⟩
  | .toolchainUnavailable reason => ⟨2, printedLine (lit "Toolchain unavailable: " ++ reason), []⟩
  | _ => ⟨2, [], []⟩

/-- The level that a command line sets for the log. -/
def logLevel : LogLevel := LogLevel.warning

/-- Handles one source. -/
def handle (s : Service) (task : Text → Action Response) (path : Text) :
    Action CommandLineResult := do
  Action.modify fun w => { w with logLevel := logLevel }
  let source ← Action.readText (FilePath.ofText path)
  return ofResponse s (← task source)

/-- Carries out a command line. -/
def run (s : Service) (args : List Text) : Action CommandLineResult :=
  match args with
  | [] => return { status := 0, listeners := [listener s] }
  | [flag, path] =>
    if flag = lit "--check" then handle s s.checkModule path
    else if flag = lit "--compile" then handle s s.compileModule path
    else return { status := 1, printed := printedLine usage }
  | _ => return { status := 1, printed := printedLine usage }

end CommandLine

end CompileService
