import CompileService.Module.Listing
import CompileService.Service.Basic

/-!
# Modules of the service

Each scope has a module root; a module is looked up in the roots that exist, in the order of the
settings, and the first file found counts.

* `Service.listModules`: the names of all modules of a scope.
* `Service.getModule`: the text of a module, or that there is none.
-/

namespace CompileService.Service

/-- The name of this part of the service in the log. -/
def moduleLog : String := "playground.modules"

/-- The module roots that exist, of the given scopes. -/
def rootsOf (s : Service) : List Text → Action (List FilePath)
  | [] => pure []
  | scope :: more => do
    let there ← Action.ask (s.scopeDir scope) FileTree.isDirectory
    -- each scope is looked at, also behind one that is missing
    let rest ← s.rootsOf more
    return if there then s.scopeDir scope :: rest else rest

/-- The module roots that exist, in the order in which they are searched. -/
def roots (s : Service) : Action (List FilePath) := s.rootsOf s.settings.moduleScopes

/-- The directories that a type check searches for modules. -/
def moduleDirs (s : Service) : Action (List Text) := do
  return (← s.roots).map FilePath.toText

/-- The path of a place below a directory. -/
def below (dir : FilePath) (place : Location) : FilePath := { dir with parts := dir.parts ++ place }

/-- Looks at entries below a directory one after the other, as a walk does to tell files from
directories. One that lies more than so many levels down is out of its reach. -/
def examine (levels : Nat) (dir : FilePath) : List Location → Action Unit
  | [] => pure ()
  | place :: more =>
    if levels < place.length then Action.fail .nestedTooDeep
    else do
      let _ ← Action.ask (below dir place) FileTree.isDirectory
      examine levels dir more

/-- What a directory holds, once a walk has looked at all of it. -/
def explore (s : Service) (dir : FilePath) : Action Folder := do
  let folder ← Action.ask dir FileTree.openFolder
  examine s.levels dir (Listing.visits folder)
  return folder

/-- The files below a directory, in the order of the walk. -/
def walk (s : Service) (dir : FilePath) : Action (List FilePath) := do
  let folder ← s.explore dir
  return (Listing.walk folder).map (below dir)

/-- Lists the modules of a scope; a scope without a root has none. -/
def listModules (s : Service) (scope : Text) : Action Response := do
  let root := s.scopeDir scope
  if ← Action.ask root FileTree.isDirectory then
    let folder ← s.explore root
    return .moduleList scope (Listing.moduleNames s.settings.sourceExtension folder)
  else
    Action.log LogLevel.debug moduleLog
      (lit "No module root for scope " ++ scope ++ lit " at " ++ root.toText)
    return .moduleList scope []

/-- Looks a module up in roots. -/
def lookupIn (name file : Text) : List FilePath → Action Response
  | [] => return .moduleNotFound name
  | root :: more => do
    let candidate := root.join file
    if ← Action.ask candidate FileTree.isFile then
      return .moduleFound name (← Action.readText candidate)
    else lookupIn name file more

/-- Looks a module up. -/
def getModule (s : Service) (name : Text) : Action Response :=
  if ModuleName.check name then do
    let roots ← s.roots
    lookupIn name (ModuleName.toFile name s.settings.sourceExtension) roots
  else return .moduleNotFound name

end CompileService.Service
