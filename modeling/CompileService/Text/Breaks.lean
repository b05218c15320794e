import CompileService.Text.Basic

/-!
# Line breaks

A text file may end its lines with LF, CR LF or CR alone. Reading turns each of the three into a
line feed (`Text.unifyBreaks`); the report parser accepts CR LF only beside LF
(`Text.dropReturns`). Lines are the pieces between line feeds.
-/

namespace CompileService.Text

open CodePoint

/-- Every CR LF and every CR that stands alone becomes one line feed. -/
def unifyBreaks : Text → Text
  | [] => []
  | [c] => if c = carriageReturn then [lineFeed] else [c]
  | c :: d :: rest =>
    if c = carriageReturn then
      if d = lineFeed then lineFeed :: unifyBreaks rest else lineFeed :: unifyBreaks (d :: rest)
    else c :: unifyBreaks (d :: rest)

/-- Every CR LF becomes one line feed; a CR that stands alone stays. -/
def dropReturns : Text → Text
  | [] => []
  | [c] => [c]
  | c :: d :: rest =>
    if c = carriageReturn ∧ d = lineFeed then lineFeed :: dropReturns rest
    else c :: dropReturns (d :: rest)

/-- The lines of a text; a text has one line more than line feeds. -/
def lines (t : Text) : List Text := splitAt lineFeed t

/-- Lines put together with a line feed between two. -/
def unlines (ls : List Text) : Text := joinWith [lineFeed] ls

end CompileService.Text
