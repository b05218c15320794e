import CompileService.Json.Reader
import CompileService.Service.Commands
import CompileService.Text.Capital
import CompileService.Text.Wide

/-!
# Requests over HTTP

The service answers at three addresses: the index page at `/`, its health at `/health` and commands
at `/json`; below `/static/` it gives out public files. The directory of public files is the one that
settings have by default. Some addresses are kept for documentation, which is empty.

* `Http.readBody`: the command in a body, or the reply that says what is wrong with it.
* `Http.handle`: the reply to a request. Whatever fails, there is a reply.
-/

namespace CompileService

/-- A request. -/
structure HttpRequest where
  method : Text
  path : Text
  /-- The content type of the body, if the request names one. -/
  contentType : Option Text := some (lit "application/json")
  body : List UInt8 := []
deriving DecidableEq

/-- What a reply holds. -/
inductive HttpContent where
  | json (value : Json)
  | text (t : Text)

/-- A reply. -/
structure HttpReply where
  status : Nat
  content : HttpContent

namespace Http

/-! ## Replies -/

/-- A reply that gives a reason. -/
def detail (status : Nat) (reason : Json) : HttpReply := ⟨status, .json (.record [("detail", reason)])⟩

/-- The reply where nothing is. -/
def notFound : HttpReply := detail 404 (.word "Not Found")

/-- The reply to a method that an address does not have. -/
def wrongMethod : HttpReply := detail 405 (.word "Method Not Allowed")

/-- The reply to a body that cannot be read. -/
def unreadable : HttpReply := detail 400 (.word "There was an error parsing the body")

/-- The reply where the service fails. -/
def serverError : HttpReply := ⟨500, .text (lit "Internal Server Error")⟩

/-- A reply that can be sent; one that cannot is a failure of the service. -/
def sendable (r : HttpReply) : HttpReply :=
  match r.content with
  | .json value => if value.isSendable then r else serverError
  | .text t => if Json.isEncodable t then r else serverError

/-! ## Bodies -/

/-- The place of the body in a fault. -/
def bodyPlace : Place := .name (lit "body")

/-- A step on the way to a value, as JSON. -/
def placeToJson : Place → Json
  | .name t => .text t
  | .index n => .int n

/-- A fault of a body, as JSON. -/
def faultToJson (f : ValidationFault) : Json :=
  let context := match f.kind.context with
    | some c => [("ctx", c)]
    | none => []
  .record ([("type", .word f.kind.type), ("loc", .list ((bodyPlace :: f.place).map placeToJson)),
    ("msg", .text f.kind.message), ("input", f.input.withoutReserved)] ++ context)

/-- The reply to a body that is no command. -/
def invalid (f : ValidationFault) : HttpReply := detail 422 (.list [faultToJson f])

/-- The reply to a body that is no JSON; `position` is the place of the fault in the body's text. -/
def malformed (fault : Json.SyntaxFault) (position : Nat) : HttpReply :=
  detail 422 (.list [.record
    [("type", .word "json_invalid"), ("loc", .list [placeToJson bodyPlace, .int position]),
      ("msg", .word "JSON decode error"), ("input", .object []),
      ("ctx", .record [("error", .word fault.message)])]])

/-- Whether a content type stands for JSON. -/
def isJsonType (contentType : Text) : Bool :=
  let name := ((Text.cut ';' contentType).1.trim CodePoint.isBlank).toAsciiLower
  match Text.splitAt '/' name with
  | [main, sub] => main == lit "application" && (sub == lit "json" || (lit "+json").isSuffixOf sub)
  | _ => false

/-- Whether a request's body is to be read as JSON: only if the request says so. -/
def hasJsonBody (r : HttpRequest) : Bool := (r.contentType.map isJsonType).getD false

/-- How many lists and objects may lie in one another in a body. -/
def nestingLimit : Nat := 950

/-- The JSON value of a body. -/
def readJson (body : List UInt8) : Except HttpReply Json :=
  match Wide.decode? body with
  | none => .error unreadable
  | some t =>
    match Json.readWithin nestingLimit t with
    | .ok value => .ok value
    | .error .hugeInteger | .error (.tooDeep _) => .error unreadable
    | .error (.malformed fault left) => .error (malformed fault (Json.faultPosition t.length left))

/-- The value of a body, if it has one. A body that is no JSON is one text. -/
def bodyValue (r : HttpRequest) : Except HttpReply Json :=
  if r.body.isEmpty then .ok .null
  else if hasJsonBody r then readJson r.body
  else match Utf8.decode r.body with
    | .ok t => .ok (.text t)
    | .error _ => .error serverError

/-- The command of a body. -/
def readBody (r : HttpRequest) : Except HttpReply Command :=
  match bodyValue r with
  | .error reply => .error reply
  | .ok .null => .error (invalid ⟨.missing, [], .null⟩)
  | .ok value => (Command.read value).mapError invalid

/-! ## Addresses -/

/-- The value of two hexadecimal digits. -/
def hexByte? (a b : CodePoint) : Option UInt8 :=
  match Json.hexValue? a, Json.hexValue? b with
  | some high, some low => some (high * 16 + low).toUInt8
  | _, _ => none

/-- The bytes of an address, in which a byte may be written as `%` and two hexadecimal digits. -/
def addressBytes : Text → List UInt8
  | [] => []
  | [c] => Utf8.encodePoint c
  | [c, d] => Utf8.encodePoint c ++ Utf8.encodePoint d
  | c :: a :: b :: rest =>
    match if c = CodePoint.ofChar '%' then hexByte? a b else none with
    | some byte => byte :: addressBytes rest
    | none => Utf8.encodePoint c ++ addressBytes (a :: b :: rest)

/-- Parts of an address without single dots and with double dots carried out. -/
def withoutDots (parts : List Text) : List Text :=
  (parts.foldl (fun done part =>
    if part = FilePath.here then done
    else if part = FilePath.up then (match done with
      | [] => []
      | [[]] => [[]]
      | _ :: above => above)
    else part :: done) []).reverse

/-- A text with the bytes put in that are written as `%` and two digits. -/
def unescaped (t : Text) : Text := Utf8.decodeReplacing (addressBytes t)

/-- The path that an address names: one leading slash, no query and no dots. Escapes are carried out
twice, so that `%2541` is read as `%41` and then as `A`. -/
def addressPath (address : Text) : Text :=
  let path := (Text.cut '#' (Text.cut '?' address).1).1
  let anchored := FilePath.slash :: path.dropWhile (· = FilePath.slash)
  unescaped (unescaped
    (Text.joinWith [FilePath.slash] (withoutDots (Text.splitAt FilePath.slash anchored))))

/-- The addresses of the service. -/
inductive Route where
  | index
  | health
  | command
  | documentation
  /-- A public file, by a path relative to the directory of public files. -/
  | publicFile (path : Text)

/-- The addresses kept for documentation. -/
def documentationPaths : List Text :=
  [lit "/openapi.json", lit "/docs", lit "/docs/oauth2-redirect", lit "/redoc"]

/-- A path without one line feed at its end. -/
def dropFinalBreak (path : Text) : Text := (Text.dropEnd? [CodePoint.lineFeed] path).getD path

/-- The path of a public file in the path of a request. It holds no line feed but one at the end;
with that, it is the whole path of the request, unless two slashes stand before it. -/
def publicPath? (path : Text) : Option Text :=
  match Text.dropStart? (lit "/static/") path with
  | none => none
  | some rest =>
    if (dropFinalBreak rest).any (· = CodePoint.lineFeed) then none
    else if dropFinalBreak rest = rest ∨ rest.head? = some FilePath.slash then some rest
    else some path

/-- The address that a path leads to. A line feed after it makes no difference. -/
def route? (path : Text) : Option Route :=
  let name := dropFinalBreak path
  if name = lit "/" then some .index
  else if name = lit "/health" then some .health
  else if name = lit "/json" then some .command
  else if documentationPaths.contains name then some .documentation
  else (publicPath? path).map .publicFile

/-- The address that a path leads to, once a slash at its end is dropped or added where it leads
nowhere as it is. -/
def resolve? (path : Text) : Option Route :=
  match route? path with
  | some r => some r
  | none =>
    if path.getLast? = some FilePath.slash then
      route? (path.reverse.dropWhile (· = FilePath.slash)).reverse
    else route? (path ++ [FilePath.slash])

/-- The directory of public files. -/
def publicDir : FilePath := FilePath.ofText ({} : Settings).staticDir

/-- The path of a public file, unless it leads out of the directory. It may lead out and back in, as
long as it stays below the directory that paths are relative to. -/
def publicFilePath? (path : Text) : Option FilePath :=
  let start := publicDir.parts.reverse
  let parts := (Text.splitAt FilePath.slash path).foldl (fun done? part =>
    match done? with
    | none => none
    | some done =>
      if part = [] ∨ part = FilePath.here then some done
      else if part = FilePath.up then (match done with
        | [] => none
        | _ :: above => some above)
      else some (part :: done)) (some start)
  match parts with
  | some parts =>
    if start.isSuffixOf parts then some { publicDir with parts := parts.reverse } else none
  | none => none

/-- The index page where the operator has put none. -/
def defaultIndex : Text :=
  lit "<h2>Fay Playground</h2><p>POST <code>/json</code> with JSON: " ++
    lit "<code>\x7b\"command\": \"check_module\", \"content\": \"...\"\x7d</code></p>"

/-- The index page. -/
def index : Action HttpReply := do
  let page := publicDir.join (lit "index.html")
  if ← Action.ask page FileTree.pathExists then
    return ⟨200, .text (← Action.readText page)⟩
  else return ⟨200, .text defaultIndex⟩

/-- A file name in front of its extension, and the extension with its point. Points at the front of
a name begin no extension. -/
def splitExtension (name : Text) : Text × Text :=
  let point : CodePoint := '.'
  let tail := (name.reverse.takeWhile (· ≠ point)).reverse
  let front := name.take (name.length - (tail.length + 1))
  if tail.length < name.length ∧ front.any (· ≠ point) then (front, point :: tail) else (name, [])

/-- The extensions of compressed files. -/
def compressions : List Text := [lit ".gz", lit ".Z", lit ".bz2", lit ".xz", lit ".br"]

/-- Whether a file is JSON by its name. The extension of a compressed file is that of what it holds. -/
def isJsonName (name : Text) : Bool :=
  let (front, extension) := splitExtension name
  let kind := if compressions.contains extension then (splitExtension front).2 else extension
  kind.toAsciiLower = lit ".json"

/-- The content of a public file: JSON if its name says so. -/
def publicContent (path : FilePath) (bytes : List UInt8) : HttpContent :=
  let asText := HttpContent.text (Utf8.decodeReplacing bytes)
  if isJsonName path.name then
    match readJson bytes with
    | .ok value => .json value
    | .error _ => asText
  else asText

/-- A public file. -/
def publicFile (path : Text) : Action HttpReply := fun w =>
  match publicFilePath? path with
  | none => (.ok notFound, w)
  | some path =>
    match FileTree.fileContent w.files path with
    | .ok bytes => (.ok ⟨200, publicContent path bytes⟩, w)
    | .error _ => (.ok notFound, w)

/-- The name of this part of the service in the log. -/
def httpLog : String := "playground.main"

/-- The reply to a command. That identifiers ran out is told to the client; every other failure is
the service's own. -/
def command (s : Service) (r : HttpRequest) : Action HttpReply := do
  match readBody r with
  | .error reply => return reply
  | .ok command =>
    match ← Action.attempt (s.dispatch command) with
    | .ok response => return ⟨200, .json response.toJson⟩
    | .error (.idsExhausted attempts) =>
      let reason := (Failure.idsExhausted attempts).message
      Action.log LogLevel.error httpLog (lit "Id generation exhausted: " ++ reason)
      return detail 503 (.text reason)
    | .error failure => Action.fail failure

/-- The reply of an address to a request. -/
def answer (s : Service) (r : HttpRequest) (method : Text) : Route → Action HttpReply
  | .index => if method = lit "GET" then index else return wrongMethod
  | .health =>
    if method = lit "GET" then return ⟨200, .json (.record [("status", .word "ok")])⟩
    else return wrongMethod
  | .command => if method = lit "POST" then command s r else return wrongMethod
  | .documentation =>
    if method = lit "GET" ∨ method = lit "HEAD" then return ⟨200, .text []⟩ else return wrongMethod
  | .publicFile path =>
    if method = lit "GET" ∨ method = lit "HEAD" then publicFile path else return wrongMethod

/-- The reply to a request. A request for the head of a reply gets no content. -/
def handle (s : Service) (r : HttpRequest) : Action HttpReply := do
  let method := r.method.capital
  let reply ← match resolve? (addressPath r.path) with
    | none => pure notFound
    | some route => do
      match ← Action.attempt (answer s r method route) with
      | .ok reply => pure (sendable reply)
      | .error _ => pure serverError
  if method = lit "HEAD" then return { reply with content := .text [] } else return reply

end Http

end CompileService
