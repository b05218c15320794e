import CompileService.Text.Printable

/-!
# Quoted text

A message that names a path or an argument quotes it: between apostrophes, or between double
quotes if it holds an apostrophe and no double quote. Inside, the quote in use and the backslash
get a backslash, tab, line feed and carriage return are written `\t`, `\n`, `\r`, and a code point
that is not printable is written by its number in two, four or eight hexadecimal digits.
-/

namespace CompileService.Text

open CodePoint

/-- The quote around a text. -/
def quoteFor (t : Text) : CodePoint :=
  if ofChar '\'' ∈ t ∧ ofChar '"' ∉ t then '"' else '\''

/-- The number of a code point in hexadecimal after a backslash and a letter that tells the
width. -/
def escapedNumber (c : CodePoint) : Text :=
  if c.val < 0x100 then lit "\\x" ++ padded 16 2 c.val
  else if c.val < 0x10000 then lit "\\u" ++ padded 16 4 c.val
  else lit "\\U" ++ padded 16 8 c.val

/-- One code point of a quoted text. -/
def quotePoint (quote c : CodePoint) : Text :=
  if c = quote ∨ c = ofChar '\\' then ['\\', c]
  else if c = ofChar '\t' then lit "\\t"
  else if c = lineFeed then lit "\\n"
  else if c = carriageReturn then lit "\\r"
  else if c.isPrintable then [c]
  else escapedNumber c

/-- A text between quotes. -/
def quoted (t : Text) : Text :=
  let quote := quoteFor t
  quote :: t.flatMap (quotePoint quote) ++ [quote]

end CompileService.Text
