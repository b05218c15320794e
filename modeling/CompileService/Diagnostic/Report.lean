import CompileService.Diagnostic.Basic
import CompileService.Number.Reading
import CompileService.Text.Breaks

/-!
# Reading reports

A report consists of blocks between blank lines. A block starts with `path:line:column:`; its text
follows on the same line or, indented by four spaces, on the lines below, and a warning's text
begins with `Warning:`. Nothing else is known of the layout, so every text is read as some list of
diagnostics.

* `Report.parse`: the diagnostics of a report, in order. Each line number is lowered by the number
  of lines put before the user's source.
* `Report.parseBlock`: the diagnostic of one block, unless it has neither a line nor a text.

Reading fails only where the field after the first colon begins with digits that are no number:
digits that are not decimal digits, or more decimal digits than an integer may have.
-/

namespace CompileService.Report

open CodePoint

/-- Why the digits after the first colon are no line number. -/
inductive LineFault where
  /-- Among the digits is one that is not a decimal digit. -/
  | notDecimal (digits : Text)
  /-- There are more decimal digits than an integer may have. -/
  | tooLong (count : Nat)
deriving DecidableEq

/-- The number of code points of a quoted text that the message shows. -/
def quotedLimit : Nat := 200

/-- The number of digits that a line number may have. -/
def digitLimit : Nat := 4300

/-- The fault in words. -/
def LineFault.message : LineFault → Text
  | .notDecimal digits =>
    lit "invalid literal for int() with base 10: " ++ digits.quoted.take quotedLimit
  | .tooLong count =>
    lit "Exceeds the limit (4300 digits) for integer string conversion: value has " ++
      Text.ofNat count ++ lit " digits; use sys.set_int_max_str_digits() to increase the limit"

/-- The text after the first colon; nothing if there is no colon. -/
def afterColon : Text → Text
  | [] => []
  | c :: rest => if c = ofChar ':' then rest else afterColon rest

/-- The number at the front of a text, zero if there is no digit. -/
def leadingNumber (t : Text) : Except LineFault Nat :=
  let digits := t.takeWhile isDigit
  let decimals := digits.takeWhile isDecimal
  if digitLimit < decimals.length then .error (.tooLong decimals.length)
  else if decimals.length < digits.length then .error (.notDecimal digits)
  else .ok (Reading.natural (decimals.map fun c => c.decimalValue?.getD 0))

/-- The line number of a block: what the second field begins with. -/
def lineNumber (block : Text) : Except LineFault Nat := leadingNumber (afterColon block)

/-- The indent of a line that goes on a message. -/
def indent : Text := lit "    "

/-- A line without one indent. -/
def dedent (line : Text) : Text := (Text.dropStart? indent line).getD line

/-- The text of a block: what follows the third colon, without the spaces before it, without one
indent on each line and without empty lines. -/
def message (block : Text) : Text :=
  let rest := afterColon (afterColon (afterColon block))
  let unspaced := rest.dropWhile (· = ofChar ' ')
  Text.unlines (((Text.lines unspaced).map dedent).filter (· ≠ []))

/-- The mark of a warning. -/
def warningMark : Text := lit "Warning:"

/-- Whether a text begins with the mark of a warning, and the text without it. A space or a line
break has to follow the mark and goes with it, unless the text ends there. -/
def splitWarning (t : Text) : Bool × Text :=
  match Text.dropStart? warningMark t with
  | none => (false, t)
  | some [] => (true, [])
  | some (c :: rest) => if c = ofChar ' ' ∨ c = lineFeed then (true, rest) else (false, t)

/-- The diagnostic of a block. A block that has no line after the first one is lowered away and no
text has none. -/
def parseBlock (lineSkip : Int) (block : Text) : Except LineFault (Option Diagnostic) :=
  let (isWarning, text) := splitWarning (message block)
  match lineNumber block with
  | .error fault => .error fault
  | .ok number =>
    let line := (number : Int) - lineSkip
    if line < 1 ∧ text = [] then .ok none
    else .ok (some ⟨if isWarning then .warning else .error, line, text⟩)

/-- The pieces of a text between pairs of line feeds. -/
def blocks : Text → List Text
  | [] => [[]]
  | [c] => [[c]]
  | c :: d :: rest =>
    if c = lineFeed ∧ d = lineFeed then [] :: blocks rest
    else match blocks (d :: rest) with
      | [] => [[c]]
      | block :: more => (c :: block) :: more

/-- The diagnostics of a row of blocks. -/
def parseBlocks (lineSkip : Int) : List Text → Except LineFault (List Diagnostic)
  | [] => .ok []
  | block :: more =>
    match parseBlock lineSkip block with
    | .error fault => .error fault
    | .ok found =>
      match parseBlocks lineSkip more with
      | .error fault => .error fault
      | .ok rest => .ok (found.toList ++ rest)

/-- The diagnostics of a report. -/
def parse (lineSkip : Int) (raw : Text) : Except LineFault (List Diagnostic) :=
  parseBlocks lineSkip (blocks raw.dropReturns)

end CompileService.Report
