import CompileService.Json.Basic
import CompileService.Moment
import CompileService.Path
import CompileService.Response

/-!
# The wire form of values

Replies are JSON. A record of the service becomes an object that carries the record's name under
`_type`, an enumerated value its name, and a path or a moment its text. Conversion goes down to a
fixed depth; a value below that is replaced by an object that says so.

* `Value`: what can be sent.
* `Value.toJson`: the conversion, with the depth that the value lies at and the greatest depth.
* `Response.toValue`, `Response.toJson`: the answers of the service.
-/

namespace CompileService

/-- What a dictionary may be keyed by. -/
inductive Key where
  | null
  | bool (b : Bool)
  | int (n : Int)
  | float (x : Binary64)
  | text (t : Text)
  | path (p : FilePath)
  /-- A key of another kind, such as a row of values, by the text that it is shown with. -/
  | other (shown : Text)
deriving DecidableEq

namespace Key

/-- A key as the name of a field. -/
def shown : Key → Text
  | .null => lit "None"
  | .bool b => lit (if b then "True" else "False")
  | .int n => Text.ofInt n
  | .float x => x.shown
  | .text t => t
  | .path p => p.toText
  | .other shown => shown

/-- The number that a key is equal to, if it is a whole one: a truth value counts as one or zero. -/
def whole? : Key → Option Int
  | .bool b => some (if b then 1 else 0)
  | .int n => some n
  | .float x => x.toInt?
  | _ => none

/-- Whether two keys name the same entry: equal numbers do, whatever their kind. -/
def same (a b : Key) : Bool :=
  match a.whole?, b.whole? with
  | some m, some n => m == n
  | none, none => a = b
  | _, _ => false

end Key

/-- A value of the service. -/
inductive Value where
  | null
  | bool (b : Bool)
  | int (n : Int)
  | float (x : Binary64)
  | text (t : Text)
  /-- Values in a row, whether or not their number is fixed. -/
  | list (items : List Value)
  | dict (entries : List (Key × Value))
  /-- A record, with its name and its fields. -/
  | record (name : Text) (fields : List (Text × Value))
  /-- A value of an enumeration. -/
  | enumerated (name : Text)
  | path (p : FilePath)
  | moment (m : Moment)
deriving Inhabited

namespace Value

/-- Enters a value in a dictionary; the key of an entry that is there stays as it is. -/
def putEntry (key : Key) (value : Value) : List (Key × Value) → List (Key × Value)
  | [] => [(key, value)]
  | (k, v) :: rest => if k.same key then (k, value) :: rest else (k, v) :: putEntry key value rest

/-- The dictionary that arises from entering values one after the other. -/
def dictOf (entries : List (Key × Value)) : Value :=
  .dict (entries.foldl (fun dict entry => putEntry entry.1 entry.2 dict) [])

/-- What stands for a value that lies too deep. -/
def truncated : Json := .record [("_truncated", .bool true)]

/-- The greatest depth of a reply. -/
def replyDepth : Int := 12

mutual

/-- The JSON form of a value at the given depth. -/
def toJson (depth maxDepth : Int) (v : Value) : Json :=
  if maxDepth < depth then truncated
  else match v with
    | .null => .null
    | .bool b => .bool b
    | .int n => .int n
    | .float x => .float x
    | .text t => .text t
    | .list items => .list (itemsToJson (depth + 1) maxDepth items)
    | .dict entries => .object (entriesToJson (depth + 1) maxDepth [] entries)
    | .record name fields =>
      .object (fieldsToJson (depth + 1) maxDepth [(lit "_type", .text name)] fields)
    | .enumerated name => .text name
    | .path p => .text p.toText
    | .moment m => .text m.shown

/-- The items of a list, all at the same depth. -/
def itemsToJson (depth maxDepth : Int) : List Value → List Json
  | [] => []
  | v :: rest => v.toJson depth maxDepth :: itemsToJson depth maxDepth rest

/-- The entries of a dictionary after those already converted. -/
def entriesToJson (depth maxDepth : Int) (done : List (Text × Json)) :
    List (Key × Value) → List (Text × Json)
  | [] => done
  | (k, v) :: rest =>
    entriesToJson depth maxDepth (Json.put k.shown (v.toJson depth maxDepth) done) rest

/-- The fields of a record after those already converted. -/
def fieldsToJson (depth maxDepth : Int) (done : List (Text × Json)) :
    List (Text × Value) → List (Text × Json)
  | [] => done
  | (name, v) :: rest =>
    fieldsToJson depth maxDepth (Json.put name (v.toJson depth maxDepth) done) rest

end

/-- A record with fields named by string constants. -/
def recordOf (name : String) (fields : List (String × Value)) : Value :=
  .record (lit name) (fields.map fun (n, v) => (lit n, v))

/-- A list of texts. -/
def texts (ts : List Text) : Value := .list (ts.map .text)

/-! ## Records by name -/

/-- The records of the service: their fields, each with the value it has where it is not given. -/
def recordForms : List (String × List (String × Option Value)) :=
  [("Diagnostic", [("severity", none), ("line", none), ("text", none)]),
    ("Artifact", [("id", none), ("path", none), ("created_at", none)]),
    ("ModuleList", [("scope", none), ("modules", some (.list []))]),
    ("ModuleFound", [("name", none), ("content", none)]),
    ("ModuleNotFound", [("name", none)]),
    ("CheckOk", [("id", none)]),
    ("CheckFailed", [("diagnostics", none), ("raw_output", none)]),
    ("CompileOk", [("id", none)]),
    ("CompileFailed", [("raw_output", none)]),
    ("ToolchainUnavailable", [("reason", none)]),
    ("ToolchainResult", [("status", none), ("output", none)])]

/-- Why a record cannot be made. -/
inductive RecordFault where
  | unexpected (owner field : Text)
  | missing (owner : Text) (fields : List Text)

/-- Names in quotes in a row, with a word before the last one. -/
def namesInRow : List Text → Text
  | [] => []
  | [a] => lit "'" ++ a ++ lit "'"
  | [a, b] => lit "'" ++ a ++ lit "' and '" ++ b ++ lit "'"
  | [a, b, c] => lit "'" ++ a ++ lit "', '" ++ b ++ lit "', and '" ++ c ++ lit "'"
  | a :: rest => lit "'" ++ a ++ lit "', " ++ namesInRow rest

/-- The fault in words. -/
def RecordFault.message : RecordFault → Text
  | .unexpected owner field =>
    owner ++ lit ".__init__() got an unexpected keyword argument '" ++ field ++ lit "'"
  | .missing owner fields =>
    owner ++ lit ".__init__() missing " ++ Text.ofNat fields.length ++
      lit " required positional argument" ++ lit (if fields.length = 1 then "" else "s") ++ lit ": " ++
      namesInRow fields

/-- Makes a record of the service from its name and its fields. A name that is no record of the
service keeps its fields as they are. -/
def construct (name : Text) (given : List (Text × Value)) : Except RecordFault Value :=
  match recordForms.find? fun form => lit form.1 = name with
  | none => .ok (.record name given)
  | some (_, form) =>
    match given.find? fun field => !form.any fun expected => lit expected.1 = field.1 with
    | some (field, _) => .error (.unexpected name field)
    | none =>
      let values := form.map fun (field, fallback) => (lit field, (given.lookup (lit field)).or fallback)
      match (values.filter (·.2.isNone)).map (·.1) with
      | [] => .ok (.record name (values.filterMap fun (field, v) => v.map (field, ·)))
      | fields => .error (.missing name fields)

end Value

/-- A severity by its name. -/
def Severity.toValue (s : Severity) : Value := .enumerated (lit s.name)

/-- A diagnostic as a record. -/
def Diagnostic.toValue (d : Diagnostic) : Value :=
  .recordOf "Diagnostic" [("severity", d.severity.toValue), ("line", .int d.line), ("text", .text d.text)]

namespace Response

/-- The fields of an answer. -/
def fields : Response → List (String × Value)
  | .moduleList scope modules => [("scope", .text scope), ("modules", .texts modules)]
  | .moduleFound name content => [("name", .text name), ("content", .text content)]
  | .moduleNotFound name => [("name", .text name)]
  | .checkOk id => [("id", .text id)]
  | .checkFailed diagnostics rawOutput =>
    [("diagnostics", .list (diagnostics.map Diagnostic.toValue)), ("raw_output", .text rawOutput)]
  | .compileOk id => [("id", .text id)]
  | .compileFailed rawOutput => [("raw_output", .text rawOutput)]
  | .toolchainUnavailable reason => [("reason", .text reason)]

/-- An answer as a record. -/
def toValue (r : Response) : Value := .recordOf r.kind.name r.fields

/-- An answer as it is sent. -/
def toJson (r : Response) : Json := r.toValue.toJson 0 Value.replyDepth

end Response

end CompileService
