import CompileService.Text.Blank
import CompileService.Text.Breaks

/-!
# Dotenv files

A dotenv file binds names to texts, one binding to a line. A line may begin with `export`; after the
equals sign the value stands between single or double quotes or goes on to the end of the line; a
comment begins with a number sign. A name without an equals sign is bound to nothing, and a line
that is none of this is skipped.

Where a value has `$` and a name between braces, the text bound to that name is put in: that of an
earlier binding or of the environment, and else what stands in the braces after `:-`.

* `Dotenv.bindings`: the bindings of a file, in order.
* `Dotenv.values`: the values after names are put in; the last binding of a name counts.
-/

namespace CompileService.Dotenv

open CodePoint

/-- A name and what it is bound to. -/
abbrev Binding := Text × Option Text

/-- A blank that does not end a line. -/
def isSpace (c : CodePoint) : Bool := c.isBlank && c != lineFeed && c != carriageReturn

/-- Whether a code point ends a line. -/
def isBreak (c : CodePoint) : Bool := c == lineFeed || c == carriageReturn

/-- What is left after the line. -/
def afterLine (t : Text) : Text := (t.dropWhile (!isBreak ·)).drop 1

/-- Drops `export` and the spaces after it, if both are there. -/
def dropExport (t : Text) : Text :=
  match Text.dropStart? (lit "export") t with
  | some rest => if rest.takeWhile isSpace = [] then t else rest.dropWhile isSpace
  | none => t

/-- The inside of a quoted text and what follows, once the quote at its front is read. A code point
after a backslash does not close the text. -/
def quotedBody (quote : CodePoint) (read : Text) : Text → Option (Text × Text)
  | [] => none
  | [c] => if c = quote then some (read.reverse, []) else none
  | c :: d :: rest =>
    if c = quote then some (read.reverse, d :: rest)
    else if c = ofChar '\\' then quotedBody quote (d :: c :: read) rest
    else quotedBody quote (c :: read) (d :: rest)

/-- The code point that an escape in double quotes stands for. -/
def doubleEscape? (c : CodePoint) : Option CodePoint :=
  if c = ofChar '\\' ∨ c = ofChar '\'' ∨ c = ofChar '"' then some c
  else if c = ofChar 'a' then some (.ofNat 0x07)
  else if c = ofChar 'b' then some (.ofNat 0x08)
  else if c = ofChar 'f' then some (.ofNat 0x0C)
  else if c = ofChar 'n' then some (.ofNat 0x0A)
  else if c = ofChar 'r' then some (.ofNat 0x0D)
  else if c = ofChar 't' then some (.ofNat 0x09)
  else if c = ofChar 'v' then some (.ofNat 0x0B)
  else none

/-- The code point that an escape in single quotes stands for. -/
def singleEscape? (c : CodePoint) : Option CodePoint :=
  if c = ofChar '\\' ∨ c = ofChar '\'' then some c else none

/-- Reads escapes; a backslash before anything else stays. -/
def decodeEscapes (escape? : CodePoint → Option CodePoint) : Text → Text
  | [] => []
  | [c] => [c]
  | c :: d :: rest =>
    match if c = ofChar '\\' then escape? d else none with
    | some point => point :: decodeEscapes escape? rest
    | none => c :: decodeEscapes escape? (d :: rest)

/-- A value without the comment after it. -/
def dropComment : Text → Text
  | [] => []
  | c :: rest =>
    if c.isBlank ∧ ((c :: rest).dropWhile isBlank).head? = some (ofChar '#') then []
    else c :: dropComment rest

/-- The value after an equals sign, and what follows it. Outside of quotes a number sign after a
blank begins a comment, also where nothing but blanks stands before it. -/
def value? (t : Text) : Option (Text × Text) :=
  let quoted? (escape? : CodePoint → Option CodePoint) (quote : CodePoint) (rest : Text) :=
    (quotedBody quote [] rest).map fun (body, after) => (decodeEscapes escape? body, after)
  let plain : Text × Text :=
    let (line, after) := t.span (!isBreak ·)
    (Text.trim isBlank (dropComment line), after)
  match t.dropWhile isSpace with
  | [] => some plain
  | c :: rest =>
    if c = ofChar '\'' then quoted? singleEscape? c rest
    else if c = ofChar '"' then quoted? doubleEscape? c rest
    else some plain

/-- The name at the front of a rest, and what follows it. A comment has no name. -/
def key? (t : Text) : Option (Option Text × Text) :=
  match t with
  | [] => none
  | c :: rest =>
    if c = ofChar '#' then some (none, t)
    else if c = ofChar '\'' then
      match Text.cut '\'' rest with
      | (_ :: _, some after) => some (some (Text.cut '\'' rest).1, after)
      | _ => none
    else
      let (name, after) := t.span fun c => c ≠ ofChar '=' ∧ c ≠ ofChar '#' ∧ !c.isBlank
      if name = [] then none else some (some name, after)

/-- What is left after the end of the line, where nothing but a comment may stand before it. -/
def lineEnd? (t : Text) : Option Text :=
  let unspaced := t.dropWhile isSpace
  let uncommented :=
    if unspaced.head? = some (ofChar '#') then unspaced.dropWhile (!isBreak ·) else t
  match uncommented.dropWhile isSpace with
  | [] => some []
  | c :: rest => if isBreak c then some rest else none

/-- Reads one binding: what is bound, if anything, and what is left. -/
def binding (t : Text) : Option Binding × Text :=
  match t.dropWhile isBlank with
  | [] => (none, [])
  | start =>
    let start := dropExport start
    match key? start with
    | none => (none, afterLine start)
    | some (key, rest) =>
      let rest := rest.dropWhile isSpace
      let value := match rest with
        | c :: after =>
          if c = ofChar '=' then (value? after).map fun (v, r) => (some v, r)
          else some (none, rest)
        | [] => some (none, rest)
      match value with
      | none => (none, afterLine rest)
      | some (value, rest) =>
        match lineEnd? rest with
        | none => (none, afterLine rest)
        | some rest => (key.map fun name => (name, value), rest)

/-- Reads bindings until nothing is left; the length of the text bounds their number. -/
def bindingsUpTo : Nat → Text → List Binding
  | 0, _ => []
  | _ + 1, [] => []
  | fuel + 1, t =>
    let (found, rest) := binding t
    found.toList ++ bindingsUpTo fuel rest

/-- A text without the byte order mark that may begin it. -/
def dropMark : Text → Text
  | [] => []
  | c :: rest => if c.val = 0xFEFF then rest else c :: rest

/-- The bindings of a file. -/
def bindings (t : Text) : List Binding := bindingsUpTo (t.length + 1) (dropMark t).unifyBreaks

/-- Binds a name; a binding that the name has is replaced in its place. -/
def bind (name : Text) (value : Option Text) : List Binding → List Binding
  | [] => [(name, value)]
  | (n, v) :: rest => if n = name then (n, value) :: rest else (n, v) :: bind name value rest

/-- A name between braces with what stands after `:-`, and what follows. -/
def reference? (t : Text) : Option (Text × Text × Text) :=
  let closing : CodePoint := '}'
  let colon : CodePoint := ':'
  match Text.dropStart? (lit "$\x7b") t with
  | none => none
  | some body =>
    let (name, rest) := body.span fun c => c ≠ closing ∧ c ≠ colon
    match rest with
    | c :: after =>
      if c = closing then some (name, [], after)
      else match Text.dropStart? (lit "-") after with
        | none => none
        | some after =>
          match Text.cut closing after with
          | (fallback, some after) => some (name, fallback, after)
          | (_, none) => none
    | [] => none

/-- Puts in the texts of the names between braces. -/
def expand (lookup : Text → Option (Option Text)) : Nat → Text → Text
  | 0, t => t
  | _ + 1, [] => []
  | fuel + 1, c :: rest =>
    match reference? (c :: rest) with
    | none => c :: expand lookup fuel rest
    | some (name, fallback, after) =>
      let found := match lookup name with
        | some value => value.getD []
        | none => fallback
      found ++ expand lookup fuel after

/-- The value that a name has, by earlier bindings or by the environment. -/
def lookupName (done : List Binding) (environment : List (Text × Text)) (name : Text) :
    Option (Option Text) :=
  match done.lookup name with
  | some value => some value
  | none => (environment.lookup name).map some

/-- Puts names in, one binding after the other. -/
def resolve (environment : List (Text × Text)) (done : List Binding) : List Binding → List Binding
  | [] => done
  | (name, value) :: rest =>
    -- names are looked up in what was bound before, not in what follows
    let value := value.map fun v => expand (lookupName done environment) (v.length + 1) v
    resolve environment (bind name value done) rest

/-- The values that a file binds names to. -/
def values (environment : List (Text × Text)) (t : Text) : List Binding :=
  resolve environment [] (bindings t)

end CompileService.Dotenv
