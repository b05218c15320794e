import CompileService.Command
import CompileService.Preview
import CompileService.Service.Artifacts
import CompileService.Service.Modules

/-!
# Commands of the service

* `Service.checkModule`: type checks a source. The prelude lines of the settings are put before it,
  and the line numbers of the report are lowered by their number.
* `Service.compileModule`: compiles a source to a script and writes a page that runs it.
* `Service.dispatch`: carries out a command.

A source is written to a temporary file before the toolchain runs and deleted after it, however the
toolchain ends; the deletion scheduled before is for the case that this one fails.
-/

namespace CompileService.Service

/-- The name of this part of the service in the log. -/
def commandLog : String := "playground.dispatcher"

/-- The number of prelude lines, and a source with the lines before it. -/
def formatForCheck (content : Text) (preludeLines : List Text) : Nat × Text :=
  (preludeLines.length, (preludeLines.flatMap fun line => line ++ [CodePoint.lineFeed]) ++ content)

/-- Why a source without UTF-8 form is rejected. The surrogate is not shown: the answer is UTF-8. -/
def rejection (u : Utf8.Unencodable) : Text :=
  lit "Source is not valid Unicode text at position " ++ Text.ofNat u.position ++
    lit ": surrogates not allowed"

/-- Writes a source to a file; gives the reason if it has no UTF-8 form. -/
def writeSource (path : FilePath) (source : Text) : Action (Option Text) := do
  match ← Action.attempt (Action.writeText path source) with
  | .ok () => return none
  | .error (.unencodable u) => return some (rejection u)
  | .error failure => Action.fail failure

/-- Type checks a source that was written to an artifact: the answer to a source that is rejected,
or the result of the toolchain. -/
def checkArtifact (s : Service) (artifact : Artifact) (source : Text) :
    Action (Response ⊕ ToolchainResult) := do
  match ← writeSource artifact.path source with
  | some reason =>
    Action.log LogLevel.info commandLog
      (lit "Check " ++ artifact.id ++ lit " rejected: " ++ reason)
    return .inl (.checkFailed [] reason)
  | none =>
    let dirs ← s.moduleDirs
    return .inr (← s.toolchain.typecheck s.runner artifact.path.toText dirs)

/-- The answer to a type check. -/
def checkAnswer (id : Text) (lineSkip : Nat) (result : ToolchainResult) : Action Response :=
  match result.status with
  | .unavailable => return .toolchainUnavailable result.output
  | .ok => do
    Action.log LogLevel.info commandLog (lit "Check " ++ id ++ lit " ok")
    return .checkOk id
  | .failed => do
    let diagnostics ← Action.ofExcept ((Report.parse lineSkip result.output).mapError .badReport)
    Action.log LogLevel.info commandLog
      (lit "Check " ++ id ++ lit " failed with " ++ Text.ofNat diagnostics.length ++
        lit " diagnostics")
    return .checkFailed diagnostics result.output

/-- Type checks a source. -/
def checkModule (s : Service) (content : Text) : Action Response := do
  let artifact ← s.newArtifact s.settings.sourceExtension
  -- pending from here on, so it happens however the request ends
  s.scheduleDelete artifact.path
  let (lineSkip, source) := formatForCheck content s.settings.preludeLines
  match ← Action.guarded (s.checkArtifact artifact source) (delete artifact.path) with
  | .inl answer => return answer
  | .inr result => checkAnswer artifact.id lineSkip result

/-- Writes the page of a script and schedules its deletion. -/
def emitPreview (s : Service) (id script : Text) : Action FilePath := do
  let path := s.generatedPath id (lit ".html")
  Action.writeText path
    (Preview.render script s.settings.previewStylesheets s.settings.previewScripts)
  s.scheduleDelete path
  return path

/-- Compiles a source that was written to an artifact: the answer to a source that is rejected, or
the result of the toolchain. -/
def compileArtifact (s : Service) (artifact : Artifact) (out : FilePath) (source : Text) :
    Action (Response ⊕ ToolchainResult) := do
  match ← writeSource artifact.path source with
  | some reason =>
    Action.log LogLevel.info commandLog
      (lit "Compile " ++ artifact.id ++ lit " rejected: " ++ reason)
    return .inl (.compileFailed reason)
  | none => return .inr (← s.toolchain.compile s.runner artifact.path.toText out.toText)

/-- The answer to a compilation. -/
def compileAnswer (s : Service) (id script : Text) (result : ToolchainResult) : Action Response :=
  match result.status with
  | .unavailable => return .toolchainUnavailable result.output
  | .failed => do
    Action.log LogLevel.info commandLog (lit "Compile " ++ id ++ lit " failed")
    return .compileFailed result.output
  | .ok => do
    let _ ← s.emitPreview id script
    Action.log LogLevel.info commandLog (lit "Compile " ++ id ++ lit " ok")
    return .compileOk id

/-- Compiles a source. -/
def compileModule (s : Service) (content : Text) : Action Response := do
  let artifact ← s.newArtifact s.settings.sourceExtension
  s.scheduleDelete artifact.path
  -- not guarded: where the directory cannot be made, the source is left to its deletion
  s.ensureDirs
  let out := s.generatedPath artifact.id (lit ".js")
  let cleanup : Action Unit := do
    delete artifact.path
    s.scheduleDelete out
  match ← Action.guarded (s.compileArtifact artifact out content) cleanup with
  | .inl answer => return answer
  | .inr result => s.compileAnswer artifact.id out.name result

/-- Carries out a command. -/
def dispatch (s : Service) : Command → Action Response
  | .listModules scope => s.listModules (lit scope.name)
  | .getModule name => s.getModule name
  | .checkModule content => s.checkModule content
  | .compileModule content => s.compileModule content

/-- Carries out what a JSON value asks for: an object has to be a command, and nothing else can be
one. -/
def dispatchJson (s : Service) (value : Json) : Action Response :=
  match value with
  | .object _ =>
    match Command.read value with
    | .ok command => s.dispatch command
    | .error fault => Action.fail (.invalidCommand fault)
  | _ => Action.fail (.unhandledCommand value)

end CompileService.Service
