import CompileService.Proofs.Diagnostic.Blocks

/-!
# Lines that are skipped

A report that is read with more lines to skip has its lines lowered further. That is not all: a
message without text counts only from the first line on, so what is lowered away is dropped.

* `Diagnostic.lowered`, `Diagnostic.isNoise`: what happens to a diagnostic. `skipMore`: to a list.
* `parse_add`: the reading with more lines to skip.
-/

namespace CompileService

/-- A diagnostic with its line lowered. -/
def Diagnostic.lowered (lines : Nat) (d : Diagnostic) : Diagnostic :=
  { d with line := d.line - lines }

/-- Whether a diagnostic lies before the first line and has no text. -/
def Diagnostic.isNoise (d : Diagnostic) : Bool := d.line < 1 ∧ d.text = []

namespace Report

/-- What is left of diagnostics when more lines are skipped. -/
def skipMore (more : Nat) (found : List Diagnostic) : List Diagnostic :=
  (found.map (·.lowered more)).filter (!·.isNoise)

theorem skipMore_append (more : Nat) (found rest : List Diagnostic) :
    skipMore more (found ++ rest) = skipMore more found ++ skipMore more rest := by
  rw [skipMore, List.map_append, List.filter_append]
  rfl

/-- The line of a block is lowered further, and the block is dropped if that makes noise of it. Noise
stays noise, so a block that was dropped before is dropped again. -/
theorem parseBlock_add (lineSkip : Int) (more : Nat) (block : Text) :
    (parseBlock (lineSkip + more) block).map Option.toList =
      ((parseBlock lineSkip block).map Option.toList).map (skipMore more) := by
  unfold parseBlock
  rcases splitWarning (message block) with ⟨isWarning, text⟩
  cases lineNumber block with
  | error fault => rfl
  | ok number =>
      have further : (number : Int) - (lineSkip + more) = number - lineSkip - more := by omega
      dsimp only
      rw [further]
      by_cases silent : text = []
      · by_cases early : (number : Int) - lineSkip < 1
        · have earlier : (number : Int) - lineSkip - more < 1 := by omega
          rw [if_pos ⟨earlier, silent⟩, if_pos ⟨early, silent⟩]
          rfl
        · rw [if_neg fun both : _ ∧ text = [] => early both.1]
          by_cases late : (number : Int) - lineSkip - more < 1
          · simp [Except.map, skipMore, Diagnostic.isNoise, Diagnostic.lowered, silent, late]
          · simp [Except.map, skipMore, Diagnostic.isNoise, Diagnostic.lowered, late]
      · simp [Except.map, skipMore, Diagnostic.isNoise, Diagnostic.lowered, silent]

theorem parseBlocks_add (lineSkip : Int) (more : Nat) (bs : List Text) :
    parseBlocks (lineSkip + more) bs = (parseBlocks lineSkip bs).map (skipMore more) := by
  induction bs with
  | nil => rfl
  | cons block rest ih =>
      rw [parseBlocks_cons, parseBlocks_cons, map_both (skipMore_append more), parseBlock_add, ih]

/-- With more lines to skip every line is lowered by their number, and then exactly the diagnostics
are dropped that lie before the first line and have no text. A report that cannot be read cannot be
read either way. -/
theorem parse_add (lineSkip : Int) (more : Nat) (raw : Text) :
    parse (lineSkip + more) raw = (parse lineSkip raw).map fun found =>
      (found.map (·.lowered more)).filter (!·.isNoise) :=
  parseBlocks_add lineSkip more (blocks raw.dropReturns)

/-- A header without a text is a diagnostic as long as its line is left. -/
example : parse 2 (lit "x.hs:3:1:") = .ok [⟨.error, 1, []⟩] ∧ parse 3 (lit "x.hs:3:1:") = .ok [] :=
  ⟨rfl, rfl⟩

end Report

end CompileService
