import CompileService.Toolchain.Header
import CompileService.World

/-!
# The toolchain

Two commands make up the toolchain: one type checks a source without generating code and with
warnings as errors, the other compiles a source to a script. Each is known only by its exit status
and its output.

* `Toolchain.typecheckArgv`, `Toolchain.compileArgv`: the command lines.
* `Toolchain.run`: starts a command. That it exits with zero counts as success; that it cannot be
  started or takes too long makes it unavailable; everything else is a failure.
* `Toolchain.typecheck`, `Toolchain.compile`: success counts only if the output reports nothing, and
  if there is a script.
-/

namespace CompileService

/-- How the toolchain ended. -/
inductive ToolchainStatus where
  | ok
  | failed
  | unavailable
deriving DecidableEq

/-- The name of a status. -/
def ToolchainStatus.name : ToolchainStatus → String
  | .ok => "OK"
  | .failed => "FAILED"
  | .unavailable => "UNAVAILABLE"

/-- The end of a toolchain command with its output, or with the reason why it could not run. -/
structure ToolchainResult where
  status : ToolchainStatus
  output : Text
deriving DecidableEq

/-- The commands of the toolchain and what they are called with. -/
structure Toolchain where
  typecheckCommand : Text := lit "ghc"
  compileCommand : Text := lit "fay"
  includeDirs : List Text := [lit "include"]
  packageFlags : List Text := []
  timeout : Option Binary64 := some (.ofInt 60)
deriving DecidableEq

namespace Toolchain

/-- The flags of a type check. -/
def typecheckFlags : List Text := [lit "-fno-code", lit "-Wall", lit "-Werror"]

/-- The argument that adds a directory to those searched. -/
def includeArgument (dir : Text) : Text := lit "-i" ++ dir

/-- The command line of a type check. -/
def typecheckArgv (tc : Toolchain) (source : Text) (moreDirs : List Text) : List Text :=
  [tc.typecheckCommand] ++ tc.packageFlags ++ typecheckFlags ++ [source] ++
    tc.includeDirs.map includeArgument ++ moreDirs.map includeArgument

/-- The command line of a compilation. -/
def compileArgv (tc : Toolchain) (source out : Text) : List Text :=
  [tc.compileCommand, lit "--no-ghc"] ++
    (if tc.includeDirs = [] then [] else [lit "--include=" ++ Text.joinWith (lit ",") tc.includeDirs]) ++
    [lit "-o", out, source]

/-- The name of this part of the service in the log. -/
def logSource : String := "playground.toolchain"

/-- A duration as messages show it. -/
def shownSeconds : Option Binary64 → Text
  | some x => x.shown
  | none => lit "None"

/-- Starts a process and keeps record of it. -/
def start (runner : Runner) (launch : Launch) : Action Outcome := fun w =>
  let (outcome, files) := runner w.calls.length launch w.files
  -- the clock stands meanwhile: a request takes no time of its own
  (.ok outcome,
    { w with files := files, calls := w.calls ++ [⟨launch, w.clock, w.files, w.timers⟩] })

/-- What the end of a process means, with a remark for the log. -/
def judge (launch : Launch) : Outcome → Action ToolchainResult
  | .timedOut => do
    let reason := launch.program ++ lit " timed out after " ++ shownSeconds launch.timeout ++ lit "s"
    Action.log LogLevel.warning logSource reason
    return ⟨.unavailable, reason⟩
  | .notStarted fault => do
    let reason := lit "Could not launch " ++ launch.program ++ lit ": " ++ fault.message
    Action.log LogLevel.warning logSource reason
    return ⟨.unavailable, reason⟩
  | .crashed crash => Action.fail (.crashed crash)
  | .exited status output => do
    let output := output.getD []
    if status = 0 then return ⟨.ok, output⟩
    else
      Action.log LogLevel.info logSource
        (launch.program ++ lit " exited with status " ++ Text.ofInt status)
      return ⟨.failed, output⟩

/-- Runs a command line. -/
def run (tc : Toolchain) (runner : Runner) (argv : List Text) : Action ToolchainResult := do
  Action.log LogLevel.info logSource (lit "Running " ++ Text.joinWith (lit " ") argv)
  let launch : Launch := ⟨argv, tc.timeout⟩
  let outcome ← start runner launch
  judge launch outcome

/-- Type checks a source. -/
def typecheck (tc : Toolchain) (runner : Runner) (source : Text) (moreDirs : List Text) :
    Action ToolchainResult := do
  let result ← tc.run runner (tc.typecheckArgv source moreDirs)
  if result.status = .ok ∧ hasReports result.output then return { result with status := .failed }
  else return result

/-- Compiles a source to a script. -/
def compile (tc : Toolchain) (runner : Runner) (source out : Text) : Action ToolchainResult := do
  let result ← tc.run runner (tc.compileArgv source out)
  if result.status ≠ .ok then return result
  else if ← Action.ask (FilePath.ofText out) FileTree.pathExists then return result
  else if result.output ≠ [] then return ⟨.failed, result.output⟩
  else return ⟨.failed, tc.compileCommand ++ lit " produced no output file"⟩

end Toolchain

end CompileService
