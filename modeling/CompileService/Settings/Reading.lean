import CompileService.Json.Reader
import CompileService.Settings.Basic
import CompileService.Settings.Dotenv
import CompileService.Text.Small
import CompileService.Validation

/-!
# Reading settings

Settings come from four places: arguments, the environment, a dotenv file and the defaults, in this
order of precedence. Names may be written in any case; in the environment and in the file a setting
that holds several texts is written as JSON. Names that are no setting are ignored in the
environment and refused in the file and among the arguments.

* `Settings.load`: the settings, or all that is wrong with what was given, in the order of the
  settings and with unknown names last.
-/

namespace CompileService.Settings

/-- Where settings are written down. -/
inductive Source where
  | environment
  | dotenv
deriving DecidableEq

/-- The name of a source in messages. -/
def Source.name : Source → String
  | .environment => "EnvSettingsSource"
  | .dotenv => "DotEnvSettingsSource"

/-- Why settings cannot be loaded. -/
inductive LoadFault where
  /-- A setting that is to be JSON is not. -/
  | notJson (name : Text) (source : Source)
  /-- The JSON of a setting is nested too deep. -/
  | tooDeep (isList : Bool)
  | invalid (faults : List ValidationFault)

/-- The message about a setting that is to be JSON and is not. -/
def notJsonMessage (name : Text) (source : Source) : Text :=
  lit "error parsing value for field \"" ++ name ++ lit "\" from source \"" ++ lit source.name ++
    lit "\""

/-! ## Values of one setting -/

/-- A value that passed validation, or all that is wrong with it. -/
abbrev Checked (α : Type) := Except (List ValidationFault) α

/-- Applies a checked function to a checked value; the faults of both are kept. -/
def Checked.apply (f : Checked (α → β)) (x : Checked α) : Checked β :=
  match f, x with
  | .ok f, .ok x => .ok (f x)
  | .error fs, .ok _ => .error fs
  | .ok _, .error xs => .error xs
  | .error fs, .error xs => .error (fs ++ xs)

/-- Reads a text. -/
def readText : Json → Except FaultKind Text
  | .text t => .ok t
  | _ => .error .notText

/-- Reads an integer; a truth value counts as one or zero. A number with a fraction part has to be
below `2 ^ 63` in size. -/
def readInteger : Json → Except FaultKind Int
  | .int n => .ok n
  | .bool b => .ok (if b then 1 else 0)
  | .float x =>
    if !x.isFinite then .error .notFinite
    else match x.toInt? with
      | some n => if n.natAbs < 0x8000000000000000 then .ok n else .error .integerSize
      | none => .error .integerFraction
  | .text t =>
    (Reading.integer t).mapError fun
      | .malformed => .integerText
      | .tooLong => .integerSize
  | _ => .error .notInteger

/-- Reads a number; a truth value counts as one or zero. An integer has to be in the range of
numbers. -/
def readNumber : Json → Except FaultKind Binary64
  | .int n =>
    let x := Binary64.ofInt n
    if x.isFinite then .ok x else .error .notNumber
  | .bool b => .ok (.ofInt (if b then 1 else 0))
  | .float x => .ok x
  | .text t =>
    match Reading.float? t with
    | some x => .ok x
    | none => .error .numberText
  | _ => .error .notNumber

/-- Reads a number that may be left open. -/
def readOpenNumber : Json → Except FaultKind (Option Binary64)
  | .null => .ok none
  | v => (readNumber v).map some

/-- Reads texts; every item that is no text is a fault. -/
def readItems (place : List Place) (index : Nat) : List Json → Checked (List Text)
  | [] => .ok []
  | v :: rest =>
    let first : Checked Text := (readText v).mapError fun kind => [⟨kind, place ++ [.index index], v⟩]
    Checked.apply (Checked.apply (.ok List.cons) first) (readItems place (index + 1) rest)

/-- The value of a setting, or its default if it is not given. -/
def setting (given : List (Text × Json)) (name : String) (fallback : α)
    (readValue : Json → Except FaultKind α) : Checked α :=
  match Json.field? (lit name) given with
  | none => .ok fallback
  | some v => (readValue v).mapError fun kind => [⟨kind, [.name (lit name)], v⟩]

/-- The texts of a setting, or its default if it is not given. -/
def textsSetting (given : List (Text × Json)) (name : String) (fallback : List Text) :
    Checked (List Text) :=
  match Json.field? (lit name) given with
  | none => .ok fallback
  | some (.list items) => readItems [.name (lit name)] 0 items
  | some v => .error [⟨.notList, [.name (lit name)], v⟩]

/-! ## All settings -/

/-- Whether a name is the name of a setting. -/
def isSettingName (name : Text) : Bool := forms.any fun entry => lit entry.1 = name

/-- The faults of names that are no setting. -/
def unknownNames (given : List (Text × Json)) : List ValidationFault :=
  (given.filter fun entry => !isSettingName entry.1).map fun (name, v) =>
    ⟨.extraForbidden, [.name name], v⟩

/-- The settings among the given values, apart from unknown names. -/
def known (given : List (Text × Json)) : Checked Settings :=
  let defaults : Settings := {}
  let text (name : String) (fallback : Text) := setting given name fallback readText
  let integer (name : String) (fallback : Int) := setting given name fallback readInteger
  let number (name : String) (fallback : Binary64) := setting given name fallback readNumber
  let texts (name : String) (fallback : List Text) := textsSetting given name fallback
  let all : Checked _ := .ok Settings.mk
  let all := Checked.apply all (text "SERVICE_NAME" defaults.serviceName)
  let all := Checked.apply all (integer "PORT" defaults.port)
  let all := Checked.apply all (text "LOG_LEVEL" defaults.logLevel)
  let all := Checked.apply all (text "MODULES_DIR" defaults.modulesDir)
  let all := Checked.apply all (texts "MODULE_SCOPES" defaults.moduleScopes)
  let all := Checked.apply all (text "SOURCE_EXTENSION" defaults.sourceExtension)
  let all := Checked.apply all (text "STATIC_DIR" defaults.staticDir)
  let all := Checked.apply all (text "GEN_DIR" defaults.genDir)
  let all := Checked.apply all (text "TYPECHECK_COMMAND" defaults.typecheckCommand)
  let all := Checked.apply all (text "COMPILE_COMMAND" defaults.compileCommand)
  let all := Checked.apply all (texts "INCLUDE_DIRS" defaults.includeDirs)
  let all := Checked.apply all (texts "GHC_PACKAGE_FLAGS" defaults.packageFlags)
  let all := Checked.apply all
    (setting given "TOOLCHAIN_TIMEOUT" defaults.toolchainTimeout readOpenNumber)
  let all := Checked.apply all (texts "PRELUDE_LINES" defaults.preludeLines)
  let all := Checked.apply all (number "ARTIFACT_TTL" defaults.artifactTtl)
  let all := Checked.apply all (number "ID_RETRY_DELAY" defaults.idRetryDelay)
  let all := Checked.apply all (integer "ID_MAX_ATTEMPTS" defaults.idMaxAttempts)
  let all := Checked.apply all (texts "PREVIEW_STYLESHEETS" defaults.previewStylesheets)
  Checked.apply all (texts "PREVIEW_SCRIPTS" defaults.previewScripts)

/-- The settings among values that go by their names. -/
def ofNamed (given : List (Text × Json)) : Checked Settings :=
  match known given, unknownNames given with
  | .ok s, [] => .ok s
  | .ok _, faults => .error faults
  | .error faults, unknown => .error (faults ++ unknown)

/-! ## Names and texts from outside -/

/-- Bindings with their names in small letters; the last binding of a name counts. -/
def foldNames (bindings : List Dotenv.Binding) : List Dotenv.Binding :=
  bindings.foldl (fun done entry => Dotenv.bind entry.1.small entry.2 done) []

/-- The name of the setting that a name stands for, in whatever case it is written. -/
def settingName? (name : Text) : Option Text :=
  (forms.find? fun entry => (lit entry.1).small = name.small).map (lit ·.1)

/-- Arguments by the names of settings; of several values for one setting the first counts. Other
names stay as they are. -/
def byName (arguments : List (Text × Json)) : List (Text × Json) :=
  arguments.foldl (fun done (name, v) =>
    match settingName? name with
    | none => Json.put name v done
    | some name => if (Json.field? name done).isSome then done else done ++ [(name, v)]) []

/-- How many lists and objects may lie in one another in the JSON of a setting. -/
def nestingLimit : Nat := 980

/-- The value of a setting in a source, as its text or, for several texts, as what the JSON says;
JSON's null leaves the setting open. -/
def sourceValue (source : Source) (name : String) (form : Form) (t : Text) :
    Except LoadFault (List (Text × Json)) :=
  if form = .texts then
    match Json.readWithin nestingLimit t with
    | .error (.tooDeep isList) => .error (.tooDeep isList)
    | .error _ => .error (.notJson (lit name) source)
    | .ok .null => .ok []
    | .ok v => .ok [(lit name, v)]
  else .ok [(lit name, .text t)]

/-- The settings that a source gives values to. -/
def sourceValues (source : Source) (bindings : List Dotenv.Binding) :
    List (String × Form) → Except LoadFault (List (Text × Json))
  | [] => .ok []
  | (name, form) :: rest =>
    let here := match bindings.lookup (lit name).small with
      | some (some t) => sourceValue source name form t
      | _ => .ok []
    match here with
    | .error fault => .error fault
    | .ok found => (sourceValues source bindings rest).map (found ++ ·)

/-- The names of the dotenv file that are bound to a text and belong to no setting. -/
def strangers (bindings : List Dotenv.Binding) : List (Text × Json) :=
  bindings.filterMap fun (name, value) =>
    match value with
    | some (c :: t) => if (settingName? name).isSome then none else some (name, .text (c :: t))
    | _ => none

/-- Values given in one place with those of a place of higher precedence put over them. -/
def override (low high : List (Text × Json)) : List (Text × Json) :=
  high.foldl (fun all entry => Json.put entry.1 entry.2 all) low

/-- The settings by arguments, environment and dotenv file. -/
def load (environment : List (Text × Text)) (dotenv : Option Text) (arguments : List (Text × Json)) :
    Except LoadFault Settings :=
  let outer := foldNames (environment.map fun (name, t) => (name, some t))
  let file := foldNames ((dotenv.map (Dotenv.values environment)).getD [])
  match sourceValues .environment outer forms with
  | .error fault => .error fault
  | .ok fromOuter =>
    match sourceValues .dotenv file forms with
    | .error fault => .error fault
    | .ok fromFile =>
      let all := override (override (fromFile ++ strangers file) fromOuter) (byName arguments)
      (ofNamed all).mapError .invalid

/-- The settings by arguments alone. -/
def ofArguments (arguments : List (Text × Json)) : Checked Settings := ofNamed (byName arguments)

end CompileService.Settings
