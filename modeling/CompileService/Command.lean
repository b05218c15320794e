import CompileService.Response
import CompileService.Validation

/-!
# Commands

A command is an object that names itself in its field `command` and brings the one argument that the
command needs. `Command.read` accepts exactly such objects; further fields are of no account, and no
value is converted on the way.

Each command has its list of possible answers (`CommandKind.responses`).
-/

namespace CompileService

/-- The scopes that modules are listed by. -/
inductive Scope where
  | library
  | project
  | global
deriving DecidableEq

/-- The name of a scope. -/
def Scope.name : Scope → String
  | .library => "library"
  | .project => "project"
  | .global => "global"

/-- All scopes. -/
def Scope.all : List Scope := [.library, .project, .global]

/-- The kinds of commands. -/
inductive CommandKind where
  | listModules
  | getModule
  | checkModule
  | compileModule
deriving DecidableEq

namespace CommandKind

/-- The tag of a command. -/
def tag : CommandKind → String
  | .listModules => "list_modules"
  | .getModule => "get_module"
  | .checkModule => "check_module"
  | .compileModule => "compile_module"

/-- The name of a kind of command. -/
def name : CommandKind → String
  | .listModules => "ListModules"
  | .getModule => "GetModule"
  | .checkModule => "CheckModule"
  | .compileModule => "CompileModule"

/-- All kinds. -/
def all : List CommandKind := [.listModules, .getModule, .checkModule, .compileModule]

/-- The field of the argument. -/
def argument : CommandKind → String
  | .listModules => "scope"
  | .getModule => "name"
  | .checkModule => "content"
  | .compileModule => "content"

/-- The kinds of answers that a command can have. -/
def responses : CommandKind → List ResponseKind
  | .listModules => [.moduleList]
  | .getModule => [.moduleFound, .moduleNotFound]
  | .checkModule => [.checkOk, .checkFailed, .toolchainUnavailable]
  | .compileModule => [.compileOk, .compileFailed, .toolchainUnavailable]

/-- All tags, quoted and in a row. -/
def expectedTags : Text :=
  Text.joinWith (lit ", ") (all.map fun kind => lit "'" ++ lit kind.tag ++ lit "'")

/-- The kind with the given tag. -/
def ofTag? (tag : Text) : Option CommandKind := all.find? fun kind => lit kind.tag = tag

end CommandKind

/-- A command. -/
inductive Command where
  | listModules (scope : Scope)
  | getModule (name : Text)
  | checkModule (content : Text)
  | compileModule (content : Text)
deriving DecidableEq

namespace Command

/-- The kind of a command. -/
def kind : Command → CommandKind
  | .listModules _ => .listModules
  | .getModule _ => .getModule
  | .checkModule _ => .checkModule
  | .compileModule _ => .compileModule

/-- The text of the argument. -/
def argument : Command → Text
  | .listModules scope => lit scope.name
  | .getModule name => name
  | .checkModule content => content
  | .compileModule content => content

/-- The fields of a command. -/
def fields (c : Command) : List (Text × Json) :=
  [(lit "command", .text (lit c.kind.tag)), (lit c.kind.argument, .text c.argument)]

/-- The scopes as a fault names them. -/
def expectedScopes : Text := lit "'library', 'project' or 'global'"

/-- The command of the given kind with the given argument. -/
def ofArgument (kind : CommandKind) (value : Json) : Except FaultKind Command :=
  match kind, value with
  | .listModules, .text t =>
    match Scope.all.find? fun scope => lit scope.name = t with
    | some scope => .ok (.listModules scope)
    | none => .error (.notAmong expectedScopes)
  | .listModules, _ => .error (.notAmong expectedScopes)
  | .getModule, .text t => .ok (.getModule t)
  | .checkModule, .text t => .ok (.checkModule t)
  | .compileModule, .text t => .ok (.compileModule t)
  | _, _ => .error .notText

/-- The command in the fields of an object. -/
def ofFields (fields : List (Text × Json)) : Except ValidationFault Command :=
  let whole := Json.object fields
  match Json.field? (lit "command") fields with
  | none => .error ⟨.tagMissing, [], whole⟩
  | some tag =>
    let kind? := match tag with
      | .text t => CommandKind.ofTag? t
      | _ => none
    match kind? with
    | none => .error ⟨.tagUnknown tag.plain CommandKind.expectedTags, [], whole⟩
    | some kind =>
      let place := [.name (lit kind.tag), .name (lit kind.argument)]
      match Json.field? (lit kind.argument) fields with
      | none => .error ⟨.missing, place, whole⟩
      | some value =>
        match ofArgument kind value with
        | .ok command => .ok command
        | .error fault => .error ⟨fault, place, value⟩

/-- Reads a command. -/
def read : Json → Except ValidationFault Command
  | .object fields => ofFields fields
  | value => .error ⟨.notObject, [], value⟩

end Command

end CompileService
