import CompileService.Text.Blank
import CompileService.Text.Digit

/-!
# Report headers

A line that begins with `file:line:column` marks a reported diagnostic: a code point that is neither
blank nor a colon, anything without a colon, and two numbers after colons. `hasReports` looks for
such a header at the front of a text and after each of its line feeds.
-/

namespace CompileService.Toolchain

open CodePoint

/-- The colon between the fields of a header. -/
def colon : CodePoint := ':'

/-- Whether a text begins with a digit of a number. -/
def startsNumber : Text → Bool
  | [] => false
  | c :: _ => c.isDecimal

/-- Whether a number, a colon and a digit stand at the front. -/
def startsPosition (t : Text) : Bool :=
  startsNumber t &&
    match t.dropWhile isDecimal with
    | [] => false
    | c :: rest => c == colon && startsNumber rest

/-- Whether a path goes on at the front up to a colon on the same line, and a position follows. -/
def restOfHeader (t : Text) : Bool :=
  match t.dropWhile fun c => c ≠ colon ∧ c ≠ lineFeed with
  | [] => false
  | c :: rest => c == colon && startsPosition rest

/-- Whether a header stands at the front. -/
def startsHeader : Text → Bool
  | [] => false
  | c :: rest => !c.isBlank && c != colon && restOfHeader rest

/-- Whether a header stands after one of the line feeds. -/
def headerAfterBreak : Text → Bool
  | [] => false
  | c :: rest => (c == lineFeed && startsHeader rest) || headerAfterBreak rest

/-- Whether some line of a text begins with a header. -/
def hasReports (t : Text) : Bool := startsHeader t || headerAfterBreak t

end CompileService.Toolchain
