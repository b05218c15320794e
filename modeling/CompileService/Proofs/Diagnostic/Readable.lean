import CompileService.Diagnostic.Report

/-!
# Which reports can be read

Reading a report fails for its line numbers only: where the digits after the first colon of a block
are not all decimal, or too many.

* `leadingNumber_ok_iff`: one number. `parse_ok_iff`: a whole report.
* `lineNumber_of_no_digit`: without digits the line is zero.
-/

namespace CompileService.Report

open CodePoint

/-- The digits at the front of a text are decimal, and not too many. -/
def ReadableNumber (t : Text) : Prop :=
  (∀ c ∈ t.takeWhile isDigit, c.isDecimal = true) ∧ (t.takeWhile isDigit).length ≤ digitLimit

/-- All line numbers of a report can be read. -/
def Readable (raw : Text) : Prop :=
  ∀ block ∈ blocks raw.dropReturns, ReadableNumber (afterColon block)

theorem length_takeWhile_lt_iff (p : CodePoint → Bool) (t : Text) :
    (t.takeWhile p).length < t.length ↔ ¬ ∀ c ∈ t, p c = true := by
  induction t with
  | nil => simp
  | cons c rest ih =>
      cases here : p c with
      | true => simpa [List.takeWhile_cons, here] using ih
      | false => simp [here]

theorem leadingNumber_ok_iff (t : Text) : (∃ n, leadingNumber t = .ok n) ↔ ReadableNumber t := by
  unfold leadingNumber ReadableNumber
  dsimp only
  generalize t.takeWhile isDigit = digits
  have all := length_takeWhile_lt_iff isDecimal digits
  by_cases decimal : ∀ c ∈ digits, c.isDecimal = true
  · -- all digits are decimal, so the row of decimal ones is the whole row
    have whole : (digits.takeWhile isDecimal).length = digits.length := by
      have most : (digits.takeWhile isDecimal).length ≤ digits.length :=
        (List.takeWhile_prefix _).length_le
      have least := mt all.1 (not_not_intro decimal)
      omega
    by_cases long : digitLimit < digits.length
    · simp [whole, long, Nat.not_le.2 long]
    · simp only [whole, long, Nat.lt_irrefl, if_false, Except.ok.injEq, exists_eq', true_iff]
      exact ⟨decimal, Nat.not_lt.1 long⟩
  · have fewer := all.2 decimal
    by_cases long : digitLimit < (digits.takeWhile isDecimal).length
    · simp [long, decimal]
    · simp [long, fewer, decimal]

/-- Where no digit follows the first colon, or there is no colon, the line is zero. -/
theorem lineNumber_of_no_digit {block : Text}
    (none : ∀ c, (afterColon block).head? = some c → c.isDigit = false) :
    lineNumber block = .ok 0 := by
  unfold lineNumber
  cases after : afterColon block with
  | nil => rfl
  | cons c rest =>
      have other : c.isDigit = false := none c (by rw [after]; rfl)
      have digits : (c :: rest).takeWhile isDigit = [] := by simp [other]
      unfold leadingNumber
      rw [digits]
      rfl

theorem parseBlock_ok_iff (lineSkip : Int) (block : Text) :
    (∃ found, parseBlock lineSkip block = .ok found) ↔ ReadableNumber (afterColon block) := by
  rw [← leadingNumber_ok_iff]
  unfold parseBlock lineNumber
  cases leadingNumber (afterColon block) with
  | error fault => simp
  | ok n =>
      dsimp only
      split
      · simp
      · simp

theorem parseBlocks_ok_iff (lineSkip : Int) (bs : List Text) :
    (∃ found, parseBlocks lineSkip bs = .ok found) ↔
      ∀ block ∈ bs, ReadableNumber (afterColon block) := by
  induction bs with
  | nil => simp [parseBlocks]
  | cons block more ih =>
      rw [List.forall_mem_cons, ← ih, ← parseBlock_ok_iff lineSkip, parseBlocks]
      cases parseBlock lineSkip block with
      | error fault => simp
      | ok found =>
          cases parseBlocks lineSkip more with
          | error fault => simp
          | ok rest => simp

/-- A report is read if and only if its line numbers can be read. -/
theorem parse_ok_iff (lineSkip : Int) (raw : Text) :
    (∃ found, parse lineSkip raw = .ok found) ↔ Readable raw :=
  parseBlocks_ok_iff lineSkip (blocks raw.dropReturns)

end CompileService.Report
