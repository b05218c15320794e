import CompileService.Wire

/-!
# Settings

What the operator of the service decides: where modules and public files are, which commands make up
the toolchain, how long artifacts live and what a preview page loads.
-/

namespace CompileService

/-- The settings of the service, with their defaults. -/
structure Settings where
  serviceName : Text := lit "fay-playground"
  port : Int := 10001
  logLevel : Text := lit "INFO"
  /-- The directory with one module root per scope. -/
  modulesDir : Text := lit "modules"
  /-- The scopes in the order in which they are searched. -/
  moduleScopes : List Text := [lit "library", lit "project", lit "global"]
  sourceExtension : Text := lit ".hs"
  /-- The directory of public files. -/
  staticDir : Text := lit "static"
  /-- The directory of compiled scripts and preview pages. -/
  genDir : Text := lit "static/gen"
  typecheckCommand : Text := lit "ghc"
  compileCommand : Text := lit "fay"
  includeDirs : List Text := [lit "include"]
  packageFlags : List Text :=
    [lit "-package", lit "fay", lit "-package-conf", lit "cabal-dev/packages-7.4.2.conf"]
  /-- The seconds after which the toolchain is stopped, if any. -/
  toolchainTimeout : Option Binary64 := some (.ofInt 60)
  /-- The lines put before a source that is checked. -/
  preludeLines : List Text := []
  /-- The seconds that an artifact lives. -/
  artifactTtl : Binary64 := .ofInt 5
  /-- The seconds between two requests for an identifier. -/
  idRetryDelay : Binary64 := .ofRatio false 1 100
  idMaxAttempts : Int := 100
  previewStylesheets : List Text := [lit "/static/css/bootstrap.min.css", lit "/static/css/gen.css"]
  previewScripts : List Text :=
    [lit "/static/js/jquery.js", lit "/static/js/date.js", lit "/static/js/gen.js"]
deriving DecidableEq

namespace Settings

/-- What a setting holds. -/
inductive Form where
  | text
  | integer
  | number
  /-- A number that may be left open. -/
  | openNumber
  | texts
deriving DecidableEq

/-- The settings by name, in the order in which they are validated. -/
def forms : List (String × Form) :=
  [("SERVICE_NAME", .text), ("PORT", .integer), ("LOG_LEVEL", .text), ("MODULES_DIR", .text),
    ("MODULE_SCOPES", .texts), ("SOURCE_EXTENSION", .text), ("STATIC_DIR", .text),
    ("GEN_DIR", .text), ("TYPECHECK_COMMAND", .text), ("COMPILE_COMMAND", .text),
    ("INCLUDE_DIRS", .texts), ("GHC_PACKAGE_FLAGS", .texts), ("TOOLCHAIN_TIMEOUT", .openNumber),
    ("PRELUDE_LINES", .texts), ("ARTIFACT_TTL", .number), ("ID_RETRY_DELAY", .number),
    ("ID_MAX_ATTEMPTS", .integer), ("PREVIEW_STYLESHEETS", .texts), ("PREVIEW_SCRIPTS", .texts)]

/-- All settings by name. -/
def toJson (s : Settings) : Json :=
  let texts (ts : List Text) := Json.list (ts.map .text)
  .record
    [("SERVICE_NAME", .text s.serviceName), ("PORT", .int s.port), ("LOG_LEVEL", .text s.logLevel),
      ("MODULES_DIR", .text s.modulesDir), ("MODULE_SCOPES", texts s.moduleScopes),
      ("SOURCE_EXTENSION", .text s.sourceExtension), ("STATIC_DIR", .text s.staticDir),
      ("GEN_DIR", .text s.genDir), ("TYPECHECK_COMMAND", .text s.typecheckCommand),
      ("COMPILE_COMMAND", .text s.compileCommand), ("INCLUDE_DIRS", texts s.includeDirs),
      ("GHC_PACKAGE_FLAGS", texts s.packageFlags),
      ("TOOLCHAIN_TIMEOUT", (s.toolchainTimeout.map Json.float).getD .null),
      ("PRELUDE_LINES", texts s.preludeLines), ("ARTIFACT_TTL", .float s.artifactTtl),
      ("ID_RETRY_DELAY", .float s.idRetryDelay), ("ID_MAX_ATTEMPTS", .int s.idMaxAttempts),
      ("PREVIEW_STYLESHEETS", texts s.previewStylesheets),
      ("PREVIEW_SCRIPTS", texts s.previewScripts)]

end Settings

end CompileService
