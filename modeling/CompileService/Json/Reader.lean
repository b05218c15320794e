import CompileService.Json.Basic
import CompileService.Number.Reading

/-!
# Reading JSON

`Json.read` reads a document and tells, where it is malformed, what was expected and at which code
point. Beside the standard grammar the words `NaN`, `Infinity` and `-Infinity` are values, and a
half of a surrogate pair may be escaped alone. An integer may have 4300 digits at most; a longer one
is no syntax error but refused all the same. So is a list or an object that lies in too many others; how
many are too many is for the reader of the document to say.

Each reading function takes a document's rest and gives back what is left of it. The number of steps
is bounded by twice the length of the document, since of two steps in a row at least one consumes a
code point.
-/

namespace CompileService.Json

/-- What is wrong with a malformed document. -/
inductive SyntaxFault where
  | expectingValue
  | extraData
  | expectingComma
  | expectingColon
  | expectingName
  | unterminatedString
  | controlCharacter
  | badEscape
  | badUnicodeEscape
deriving DecidableEq

/-- The fault in words. -/
def SyntaxFault.message : SyntaxFault → String
  | .expectingValue => "Expecting value"
  | .extraData => "Extra data"
  | .expectingComma => "Expecting ',' delimiter"
  | .expectingColon => "Expecting ':' delimiter"
  | .expectingName => "Expecting property name enclosed in double quotes"
  | .unterminatedString => "Unterminated string starting at"
  | .controlCharacter => "Invalid control character at"
  | .badEscape => "Invalid \\escape"
  | .badUnicodeEscape => "Invalid \\uXXXX escape"

/-- Why a document cannot be read. -/
inductive ReadFault where
  /-- The document is malformed; `left` code points of it are left at the fault. -/
  | malformed (fault : SyntaxFault) (left : Nat)
  /-- An integer has too many digits. -/
  | hugeInteger
  /-- A list or an object lies in too many others. -/
  | tooDeep (isList : Bool)
deriving DecidableEq

/-- The message about a document that is nested too deep. -/
def tooDeepMessage (isList : Bool) : String :=
  "maximum recursion depth exceeded while decoding a JSON " ++ (if isList then "array" else "object") ++
    " from a unicode string"

/-- A reading step: the value read and the rest of the document. -/
abbrev Step (α : Type) := Except ReadFault (α × Text)

/-- A fault at the front of the given rest. -/
def malformedAt (fault : SyntaxFault) (rest : Text) : Except ReadFault α :=
  .error (.malformed fault rest.length)

/-- The blanks that may stand between tokens. -/
def isGap (c : CodePoint) : Bool :=
  c.val == 0x20 || c.val == 0x09 || c.val == 0x0A || c.val == 0x0D

/-- A rest without the blanks at its front. -/
def skipGap (t : Text) : Text := t.dropWhile isGap

/-- The value of a hexadecimal digit. -/
def hexValue? (c : CodePoint) : Option Nat :=
  if c.isAsciiDigit then some (c.val - 0x30)
  else if 0x61 ≤ c.val ∧ c.val ≤ 0x66 then some (c.val - 0x61 + 10)
  else if 0x41 ≤ c.val ∧ c.val ≤ 0x46 then some (c.val - 0x41 + 10)
  else none

/-- The number that four hexadecimal digits stand for, and the rest. -/
def hexUnit? : Text → Option (Nat × Text)
  | a :: b :: c :: d :: rest =>
    match hexValue? a, hexValue? b, hexValue? c, hexValue? d with
    | some a, some b, some c, some d => some (a * 0x1000 + b * 0x100 + c * 0x10 + d, rest)
    | _, _, _, _ => none
  | _ => none

/-- The second half of a surrogate pair, if the rest begins with its escape. A rest of six code
points or fewer is not looked at: the string could not end after it. -/
def pairedUnit (high : CodePoint) (rest : Text) : Step CodePoint :=
  match rest with
  | b :: u :: digits =>
    if 6 < rest.length ∧ b = CodePoint.ofChar '\\' ∧ u = CodePoint.ofChar 'u' then
      match hexUnit? digits with
      | none => malformedAt .badUnicodeEscape (u :: digits)
      | some (low, after) =>
        if 0xDC00 ≤ low ∧ low ≤ 0xDFFF then
          .ok (.ofNat (0x10000 + (high.val - 0xD800) * 0x400 + (low - 0xDC00)), after)
        else .ok (high, rest)
    else .ok (high, rest)
  | _ => .ok (high, rest)

/-- The code point of an escape whose number follows the `u` at the front of the rest. -/
def unicodeEscape (u : CodePoint) (rest : Text) : Step CodePoint :=
  if rest.length ≤ 4 then malformedAt .badUnicodeEscape (u :: rest)
  else match hexUnit? rest with
    | none => malformedAt .badUnicodeEscape (u :: rest)
    | some (n, after) =>
      let c := CodePoint.ofNat n
      if c.isHighSurrogate then pairedUnit c after else .ok (c, after)

/-- The code point that a letter after a backslash stands for. -/
def simpleEscape? (c : CodePoint) : Option CodePoint :=
  if c = CodePoint.ofChar '"' ∨ c = CodePoint.ofChar '\\' ∨ c = CodePoint.ofChar '/' then some c
  else if c = CodePoint.ofChar 'b' then some (.ofNat 0x08)
  else if c = CodePoint.ofChar 'f' then some (.ofNat 0x0C)
  else if c = CodePoint.ofChar 'n' then some (.ofNat 0x0A)
  else if c = CodePoint.ofChar 'r' then some (.ofNat 0x0D)
  else if c = CodePoint.ofChar 't' then some (.ofNat 0x09)
  else none

/-- Reads a string after its opening quote, up to and with the closing one. `opening` is what was
left at the opening quote. -/
def readString (opening : Nat) : Nat → Text → Text → Step Text
  | 0, _, _ => .error (.malformed .unterminatedString opening)
  | _ + 1, _, [] => .error (.malformed .unterminatedString opening)
  | fuel + 1, read, c :: rest =>
    if c = CodePoint.ofChar '"' then .ok (read.reverse, rest)
    else if c = CodePoint.ofChar '\\' then
      match rest with
      | [] => .error (.malformed .unterminatedString opening)
      | e :: after =>
        if e = CodePoint.ofChar 'u' then
          match unicodeEscape e after with
          | .error fault => .error fault
          | .ok (point, after) => readString opening fuel (point :: read) after
        else match simpleEscape? e with
          | none => malformedAt .badEscape (c :: rest)
          | some point => readString opening fuel (point :: read) after
    else if c.val ≤ 0x1F then malformedAt .controlCharacter (c :: rest)
    else readString opening fuel (c :: read) rest

/-- The string whose opening quote stands before the rest. -/
def stringAfterQuote (rest : Text) : Step Text :=
  readString (rest.length + 1) (rest.length + 1) [] rest

/-- The whole part of a number: a zero, or digits that do not begin with one. -/
def wholePart? : Text → Option (Text × Text)
  | [] => none
  | c :: rest =>
    if c = CodePoint.ofChar '0' then some ([c], rest)
    else if c.isAsciiDigit then some (Reading.spanDigits (c :: rest))
    else none

/-- The fraction of a number, if a digit follows the point. -/
def fractionPart (t : Text) : Text × Text :=
  match t with
  | c :: rest =>
    let (digits, after) := Reading.spanDigits rest
    if c = CodePoint.ofChar '.' ∧ digits ≠ [] then (digits, after) else ([], t)
  | [] => ([], t)

/-- The exponent of a number, if a digit follows. -/
def exponentPart (t : Text) : Option Int × Text :=
  match t with
  | c :: rest =>
    if c = CodePoint.ofChar 'e' ∨ c = CodePoint.ofChar 'E' then
      let (negative, signless) := Reading.sign rest
      let (digits, after) := Reading.spanDigits signless
      if digits = [] then (none, t)
      else (some (Binary64.signed negative (Reading.natural (Reading.asciiValues digits))), after)
    else (none, t)
  | [] => (none, t)

/-- The number of digits that an integer may have. -/
def integerDigitLimit : Nat := 4300

/-- Reads a number after its sign; `start` is the rest at its front. -/
def readNumber (negative : Bool) (start t : Text) : Step Json :=
  match wholePart? t with
  | none => malformedAt .expectingValue start
  | some (whole, rest) =>
    let (part, rest) := fractionPart rest
    let (exponent, rest) := exponentPart rest
    let digits := Reading.asciiValues (whole ++ part)
    if part = [] ∧ exponent = none then
      if integerDigitLimit < whole.length then .error .hugeInteger
      else .ok (.int (Binary64.signed negative (Reading.natural digits)), rest)
    else
      let e := exponent.getD 0 - part.length
      .ok (.float (.ofDecimal negative (Reading.natural digits) e), rest)

/-- The words that are values. -/
def words : List (Text × Json) :=
  [(lit "null", .null), (lit "true", .bool true), (lit "false", .bool false),
    (lit "NaN", .float .nan), (lit "Infinity", .float (.infinite false)),
    (lit "-Infinity", .float (.infinite true))]

/-- Reads a word or a number. -/
def readScalar (t : Text) : Step Json :=
  match words.findSome? fun (w, v) => (Text.dropStart? w t).map (v, ·) with
  | some found => .ok found
  | none =>
    match t with
    | c :: rest =>
      if c = CodePoint.ofChar '-' then readNumber true t rest else readNumber false t t
    | [] => malformedAt .expectingValue t

mutual

/-- Reads the value at the front of a rest; `depth` is how many lists and objects may lie in one
another. -/
def readValue : Nat → Nat → Text → Step Json
  | 0, _, t => malformedAt .expectingValue t
  | fuel + 1, depth, t =>
    match t with
    | [] => malformedAt .expectingValue t
    | c :: rest =>
      if c = CodePoint.ofChar '"' then
        match stringAfterQuote rest with
        | .error fault => .error fault
        | .ok (s, after) => .ok (.text s, after)
      else if c = CodePoint.ofChar '{' then
        match depth, skipGap rest with
        | 0, _ => .error (.tooDeep false)
        | _ + 1, [] => malformedAt .expectingName []
        | depth + 1, d :: after =>
          if d = CodePoint.ofChar '}' then .ok (.object [], after)
          else readFields fuel depth [] (d :: after)
      else if c = CodePoint.ofChar '[' then
        match depth, skipGap rest with
        | 0, _ => .error (.tooDeep true)
        | _ + 1, [] => malformedAt .expectingValue []
        | depth + 1, d :: after =>
          if d = CodePoint.ofChar ']' then .ok (.list [], after)
          else readItems fuel depth [] (d :: after)
      else readScalar t

/-- Reads the fields of an object from a name on; `read` holds the fields before it. -/
def readFields : Nat → Nat → List (Text × Json) → Text → Step Json
  | 0, _, _, t => malformedAt .expectingName t
  | fuel + 1, depth, read, t =>
    match t with
    | [] => malformedAt .expectingName t
    | c :: rest =>
      if c ≠ CodePoint.ofChar '"' then malformedAt .expectingName t
      else match stringAfterQuote rest with
        | .error fault => .error fault
        | .ok (name, rest) =>
          match skipGap rest with
          | [] => malformedAt .expectingColon []
          | d :: rest =>
            if d ≠ CodePoint.ofChar ':' then malformedAt .expectingColon (d :: rest)
            else match readValue fuel depth (skipGap rest) with
              | .error fault => .error fault
              | .ok (value, rest) =>
                let read := put name value read
                match skipGap rest with
                | [] => malformedAt .expectingComma []
                | d :: rest =>
                  if d = CodePoint.ofChar '}' then .ok (.object read, rest)
                  else if d ≠ CodePoint.ofChar ',' then malformedAt .expectingComma (d :: rest)
                  else readFields fuel depth read (skipGap rest)

/-- Reads the items of a list from one on; `read` holds those before it, the last one first. -/
def readItems : Nat → Nat → List Json → Text → Step Json
  | 0, _, _, t => malformedAt .expectingValue t
  | fuel + 1, depth, read, t =>
    match readValue fuel depth t with
    | .error fault => .error fault
    | .ok (value, rest) =>
      match skipGap rest with
      | [] => malformedAt .expectingComma []
      | d :: rest =>
        if d = CodePoint.ofChar ']' then .ok (.list (value :: read).reverse, rest)
        else if d ≠ CodePoint.ofChar ',' then malformedAt .expectingComma (d :: rest)
        else readItems fuel depth (value :: read) (skipGap rest)

end

/-- Reads a whole document in which at most `depth` lists and objects lie in one another. -/
def readWithin (depth : Nat) (t : Text) : Except ReadFault Json :=
  match readValue (2 * t.length + 2) depth (skipGap t) with
  | .error fault => .error fault
  | .ok (value, rest) =>
    match skipGap rest with
    | [] => .ok value
    | more => malformedAt .extraData more

/-- Reads a whole document of any depth. -/
def read (t : Text) : Except ReadFault Json := readWithin t.length t

/-- The place of a fault in a document of the given length. -/
def faultPosition (length left : Nat) : Nat := length - left

end CompileService.Json
