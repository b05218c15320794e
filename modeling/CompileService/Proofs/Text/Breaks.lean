import CompileService.Proofs.Text.Split
import CompileService.Text.Breaks
import CompileService.Text.Digit

/-!
# Line breaks of both kinds

* `Text.broken`: lines joined by line breaks, each of which may be of either kind.
* `Text.dropReturns_append_of_apart`: two texts one after the other.
* `Text.dropReturns_broken`: without the returns they are the lines joined by line feeds.
-/

namespace CompileService

/-- The two ways to end a line in a report. -/
inductive LineBreak where
  | lf
  | crlf
deriving DecidableEq

/-- Decimal digits do not end lines. -/
theorem CodePoint.not_break_of_isDecimal {c : CodePoint} (decimal : c.isDecimal = true) :
    c ≠ lineFeed ∧ c ≠ carriageReturn := by
  constructor
  · rintro rfl
    revert decimal
    decide
  · rintro rfl
    revert decimal
    decide

namespace Text

open CodePoint

/-- A line break as it is written. -/
def ofBreak : LineBreak → Text
  | .lf => [lineFeed]
  | .crlf => [carriageReturn, lineFeed]

/-- Lines joined by line breaks, the next of which is the first one given. -/
def broken (breaks : Nat → LineBreak) : List Text → Text
  | [] => []
  | [line] => line
  | line :: next :: more =>
    line ++ ofBreak (breaks 0) ++ broken (fun i => breaks (i + 1)) (next :: more)

theorem dropReturns_cons {c : CodePoint} (other : c ≠ carriageReturn) (t : Text) :
    dropReturns (c :: t) = c :: dropReturns t := by
  cases t with
  | nil => rfl
  | cons d rest => rw [dropReturns, if_neg fun both => other both.1]

theorem dropReturns_append {front : Text} (free : carriageReturn ∉ front) (t : Text) :
    dropReturns (front ++ t) = front ++ dropReturns t := by
  induction front with
  | nil => rfl
  | cons c more ih =>
      simp only [List.mem_cons, not_or] at free
      rw [List.cons_append, dropReturns_cons (Ne.symm free.1), ih free.2, List.cons_append]

/-- Returns are dropped on either side of a place that does not part a return from a line feed. -/
theorem dropReturns_append_of_apart {front back : Text}
    (apart : front.getLast? = some carriageReturn → back.head? ≠ some lineFeed) :
    dropReturns (front ++ back) = dropReturns front ++ dropReturns back := by
  induction front using dropReturns.induct with
  | case1 => rfl
  | case2 c =>
      cases back with
      | nil => rfl
      | cons d rest =>
          have other : ¬ (c = carriageReturn ∧ d = lineFeed) := by
            rintro ⟨rfl, rfl⟩
            exact apart rfl rfl
          show dropReturns (c :: d :: rest) = c :: dropReturns (d :: rest)
          rw [dropReturns, if_neg other]
  | case3 c d rest both ih =>
      have later : rest.getLast? = some carriageReturn → back.head? ≠ some lineFeed := by
        intro last
        refine apart ?_
        simp [List.getLast?_cons, last]
      rw [List.cons_append, List.cons_append, dropReturns, if_pos both, ih later, dropReturns,
        if_pos both, List.cons_append]
  | case4 c d rest other ih =>
      rw [List.getLast?_cons_cons] at apart
      have later := ih apart
      rw [List.cons_append] at later
      rw [List.cons_append, List.cons_append, dropReturns, if_neg other, later, dropReturns,
        if_neg other, List.cons_append]

/-- What holds no returns and does not begin with a line feed is kept. -/
theorem infix_dropReturns {c : CodePoint} {part t : Text} (other : c ≠ lineFeed)
    (free : carriageReturn ∉ c :: part) (inside : c :: part <:+: t) :
    c :: part <:+: dropReturns t := by
  obtain ⟨front, back, rfl⟩ := inside
  have apart : (c :: part ++ back).head? ≠ some lineFeed := fun feed => other (Option.some.inj feed)
  rw [List.append_assoc, dropReturns_append_of_apart fun _ => apart, dropReturns_append free,
    ← List.append_assoc]
  exact List.infix_append _ _ _

theorem dropReturns_ofBreak (b : LineBreak) (t : Text) :
    dropReturns (ofBreak b ++ t) = lineFeed :: dropReturns t := by
  cases b with
  | lf => exact dropReturns_cons (by decide) t
  | crlf =>
      show dropReturns (carriageReturn :: lineFeed :: t) = _
      rw [dropReturns, if_pos ⟨rfl, rfl⟩]

/-- Without the returns all line breaks are line feeds. -/
theorem dropReturns_broken (breaks : Nat → LineBreak) {ls : List Text}
    (free : ∀ line ∈ ls, carriageReturn ∉ line) : dropReturns (broken breaks ls) = unlines ls := by
  induction ls generalizing breaks with
  | nil => rfl
  | cons line more ih =>
      have here : dropReturns line = line := by
        simpa [dropReturns] using dropReturns_append (free line List.mem_cons_self) []
      cases more with
      | nil => exact here
      | cons next rest =>
          have later := ih (fun i => breaks (i + 1)) fun other mem =>
            free other (List.mem_cons_of_mem _ mem)
          rw [broken, List.append_assoc, dropReturns_append (free line List.mem_cons_self),
            dropReturns_ofBreak, later, unlines, unlines, joinWith_cons_cons]
          simp

end Text

end CompileService
