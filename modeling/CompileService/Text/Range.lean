import CompileService.Text.Basic

/-!
# Ranges of code points

A property of the Unicode character database is given by the code points that have it, written
as runs. A run has a step, because capital and small letters alternate in most alphabets. The
tables of this folder state Unicode 14.0.
-/

namespace CompileService

/-- The code points `first`, `first + step`, ... up to `last`. -/
structure CodeRun where
  first : Nat
  last : Nat
  step : Nat
deriving DecidableEq

namespace CodeRun

/-- Whether a number is one of the run. -/
def has (r : CodeRun) (n : Nat) : Bool :=
  r.first ≤ n && n ≤ r.last && (n - r.first) % r.step == 0

end CodeRun

/-- Whether a code point is in one of the runs. -/
def CodePoint.inRuns (runs : List CodeRun) (c : CodePoint) : Bool :=
  runs.any (·.has c.val)

end CompileService
