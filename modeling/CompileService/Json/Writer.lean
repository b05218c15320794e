import CompileService.Json.Basic

/-!
# Writing JSON

`Json.render` writes a value on one line without blanks and in ASCII: every other code point, and
every control character, is escaped, one above U+FFFF as a surrogate pair.
-/

namespace CompileService.Json

/-- A number in four hexadecimal digits after a backslash and `u`. -/
def escapedUnit (n : Nat) : Text := lit "\\u" ++ Text.padded 16 4 n

/-- One code point inside a string. -/
def escapedPoint (c : CodePoint) : Text :=
  if c = CodePoint.ofChar '"' then lit "\\\""
  else if c = CodePoint.ofChar '\\' then lit "\\\\"
  else if c = CodePoint.lineFeed then lit "\\n"
  else if c = CodePoint.carriageReturn then lit "\\r"
  else if c = CodePoint.ofChar '\t' then lit "\\t"
  else if 0x20 ≤ c.val ∧ c.val < 0x7F then [c]
  else if c.val < 0x10000 then escapedUnit c.val
  else escapedUnit (0xD800 + (c.val - 0x10000) / 0x400) ++ escapedUnit (0xDC00 + (c.val - 0x10000) % 0x400)

/-- A string between double quotes. -/
def renderText (t : Text) : Text :=
  CodePoint.ofChar '"' :: t.flatMap escapedPoint ++ [CodePoint.ofChar '"']

mutual

/-- The text of a value. -/
def render : Json → Text
  | .null => lit "null"
  | .bool b => lit (if b then "true" else "false")
  | .int n => Text.ofInt n
  | .float x => x.shown
  | .text t => renderText t
  | .list items => lit "[" ++ renderItems items ++ lit "]"
  | .object fields => lit "\x7b" ++ renderFields fields ++ lit "\x7d"

/-- The values of a list. -/
def renderItems : List Json → Text
  | [] => []
  | [v] => v.render
  | v :: w :: rest => v.render ++ lit "," ++ renderItems (w :: rest)

/-- The fields of an object. -/
def renderFields : List (Text × Json) → Text
  | [] => []
  | [(name, v)] => renderText name ++ lit ":" ++ v.render
  | (name, v) :: w :: rest => renderText name ++ lit ":" ++ v.render ++ lit "," ++ renderFields (w :: rest)

end

end CompileService.Json
