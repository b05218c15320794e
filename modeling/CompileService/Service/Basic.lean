import CompileService.Settings.Basic
import CompileService.Toolchain.Basic

/-!
# The service

A service is given by its settings, a directory for temporary files, a source of identifiers, a
runner of processes and a limit on nested calls. None of them changes while it works; what changes
is the `World`.
-/

namespace CompileService

/-- What a service works with. -/
structure Service where
  settings : Settings
  /-- The directory of temporary files. -/
  tempDir : FilePath
  /-- What the source of identifiers gives at each request. -/
  ids : Nat → Draw
  runner : Runner
  /-- The number of levels below a directory at which a walk can look at entries. It takes a nested
  call for each, and how many calls may be nested is limited. -/
  levels : Nat := 900

namespace Service

/-- The directory of compiled scripts and preview pages. -/
def genDir (s : Service) : FilePath := FilePath.ofText s.settings.genDir

/-- The module root of a scope. -/
def scopeDir (s : Service) (scope : Text) : FilePath :=
  (FilePath.ofText s.settings.modulesDir).join scope

/-- The toolchain of the service. -/
def toolchain (s : Service) : Toolchain where
  typecheckCommand := s.settings.typecheckCommand
  compileCommand := s.settings.compileCommand
  includeDirs := s.settings.includeDirs
  packageFlags := s.settings.packageFlags
  timeout := s.settings.toolchainTimeout

end Service

end CompileService
