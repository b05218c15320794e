import CompileService.Diagnostic.Basic

/-!
# Responses

The answers of the service, one variant for each way in which a command can end normally.
-/

namespace CompileService

/-- The kinds of answers. -/
inductive ResponseKind where
  | moduleList
  | moduleFound
  | moduleNotFound
  | checkOk
  | checkFailed
  | compileOk
  | compileFailed
  | toolchainUnavailable
deriving DecidableEq

/-- The tag that an answer carries. -/
def ResponseKind.name : ResponseKind → String
  | .moduleList => "ModuleList"
  | .moduleFound => "ModuleFound"
  | .moduleNotFound => "ModuleNotFound"
  | .checkOk => "CheckOk"
  | .checkFailed => "CheckFailed"
  | .compileOk => "CompileOk"
  | .compileFailed => "CompileFailed"
  | .toolchainUnavailable => "ToolchainUnavailable"

/-- An answer of the service. -/
inductive Response where
  | moduleList (scope : Text) (modules : List Text)
  | moduleFound (name content : Text)
  | moduleNotFound (name : Text)
  | checkOk (id : Text)
  | checkFailed (diagnostics : List Diagnostic) (rawOutput : Text)
  | compileOk (id : Text)
  | compileFailed (rawOutput : Text)
  /-- The toolchain could not be run at all. -/
  | toolchainUnavailable (reason : Text)
deriving DecidableEq

/-- The kind of an answer. -/
def Response.kind : Response → ResponseKind
  | .moduleList .. => .moduleList
  | .moduleFound .. => .moduleFound
  | .moduleNotFound .. => .moduleNotFound
  | .checkOk .. => .checkOk
  | .checkFailed .. => .checkFailed
  | .compileOk .. => .compileOk
  | .compileFailed .. => .compileFailed
  | .toolchainUnavailable .. => .toolchainUnavailable

end CompileService
