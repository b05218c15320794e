import CompileService.Proofs.Diagnostic.Message
import CompileService.Proofs.Service.Realignment
import CompileService.Proofs.Toolchain.Header

/-!
# A printed report is shown

A type check whose process exits with zero fails for a header in the output alone. The search for
headers and the reader of reports look at the text in different ways: the one at the front of every
line, the other at the first three colons of a block. A header whose line number is at least one is
a diagnostic all the same. Where no colon stands before it in its block, it gives the line; and
where one does, the digit of its column comes behind the third colon and is text.

* `Report.parseBlock_of_position`: a block with a line number and a column somewhere.
* `Report.parse_ne_nil`: a report with a header. `report_never_lost`: what a type check answers, if
  the report can be read.
* `printed_report_not_shown`: a header is lost with a report that cannot.
-/

namespace CompileService

open CodePoint

namespace Report

/-- What stands behind some colon stands behind the first one. -/
theorem suffix_afterColon (front rest : Text) : rest <:+ afterColon (front ++ colon :: rest) := by
  induction front with
  | nil =>
      have behind : rest = afterColon (colon :: rest) := (if_pos rfl).symm
      exact ⟨[], behind⟩
  | cons c more ih =>
      rw [List.cons_append, afterColon]
      split
      · exact (List.suffix_cons colon rest).trans (List.suffix_append more _)
      · exact ih

/-- A decimal digit is part of the text if it stands behind three colons. -/
theorem text_of_digit {block : Text} {c : CodePoint} (decimal : c.isDecimal = true)
    (mem : c ∈ afterColon (afterColon (afterColon block))) :
    (splitWarning (message block)).2 ≠ [] := by
  have unmarked : ∀ d ∈ space :: lineFeed :: warningMark, d.isDecimal = false := by decide
  have other : c ∉ space :: lineFeed :: warningMark := by
    intro inside
    rw [unmarked c inside] at decimal
    cases decimal
  simp only [List.mem_cons, not_or] at other
  obtain ⟨noSpace, noFeed, noMark⟩ := other
  exact List.ne_nil_of_mem (mem_splitWarning noMark noSpace noFeed (mem_body noSpace noFeed mem))

/-- A block that holds a line number of at least one and a column is a diagnostic, wherever in the
block they stand. -/
theorem parseBlock_of_position {header : Toolchain.Header} (positive : 1 ≤ header.number)
    (front rest : Text) : parseBlock 0 (front ++ header.position ++ rest) ≠ .ok none := by
  intro noise
  obtain ⟨n, number, early, silent⟩ := parseBlock_none_iff.1 noise
  have shape : front ++ header.position ++ rest =
      front ++ colon :: (header.digits ++ colon :: header.column :: rest) := by
    simp [Toolchain.Header.position, Toolchain.colon, colon]
  rw [shape] at number silent
  by_cases first : colon ∈ front
  · -- one colon comes before, so the digit of the column is behind the third
    obtain ⟨before, between, rfl⟩ := List.append_of_mem first
    obtain ⟨x, one⟩ :=
      suffix_afterColon before
        (between ++ colon :: (header.digits ++ colon :: header.column :: rest))
    obtain ⟨y, two⟩ :=
      suffix_afterColon (x ++ between) (header.digits ++ colon :: header.column :: rest)
    obtain ⟨z, three⟩ := suffix_afterColon (y ++ header.digits) (header.column :: rest)
    refine text_of_digit header.column_decimal ?_ silent
    rw [List.append_assoc, List.cons_append, ← one, ← List.append_assoc, ← two,
      ← List.append_assoc, ← three]
    simp
  · -- the header's own colon is the first one, and its number is the block's
    rw [lineNumber, afterColon_append first, leadingNumber_of_decimals header.digits_decimal]
      at number
    split at number
    · cases number
    · have low : (header.number : Int) - 0 < 1 := by
        rwa [← Except.ok.inj number] at early
      omega

/-- A report with a header whose line number is at least one is not read as nothing. -/
theorem parse_ne_nil {raw line : Text} (mem : line ∈ raw.lines) {header : Toolchain.Header}
    (front : header.text <+: line) (positive : 1 ≤ header.number) : parse 0 raw ≠ .ok [] := by
  intro nothing
  have free := header.position_noBreak
  -- the position has no break in it, so it stays together where the report is cut
  have inside : header.position <:+: raw :=
    header.position_suffix.isInfix.trans
      (front.isInfix.trans (Text.infix_of_mem_splitAt mem))
  have kept : header.position <:+: raw.dropReturns :=
    Text.infix_dropReturns (by decide) (fun ret => (free _ ret).2 rfl) inside
  obtain ⟨_, among, before, rest, rfl⟩ :=
    exists_block_of_infix (fun feed => (free _ feed).1 rfl) kept
  rcases parseBlock_of_mem nothing among with noise | ⟨d, found, -⟩
  · exact parseBlock_of_position positive before rest noise
  · cases found

/-- A header for line zero is searched for as well, but without a text it is not shown. -/
example : Toolchain.hasReports (lit "a:0:1") = true ∧ parse 0 (lit "a:0:1") = .ok [] :=
  ⟨by decide, rfl⟩

end Report

namespace Service

/-- What is searched for is a header at the front of a line; and an output with a header whose line
number is at least one is never read as nothing. So where the process of a type check without
prelude exits with zero and prints such a header, the check is a failure that shows a diagnostic, or
no answer at all: that is so where a line number of the output cannot be read. -/
theorem report_never_lost (raw : Text) :
    (Toolchain.hasReports raw = true ↔
      ∃ line ∈ raw.lines, ∃ header : Toolchain.Header, header.text <+: line) ∧
    ∀ line ∈ raw.lines, ∀ header : Toolchain.Header, header.text <+: line → 1 ≤ header.number →
      Report.parse 0 raw ≠ .ok [] ∧
      ∀ (s : Service) (w : World) (content : Text) call said, s.settings.preludeLines = [] →
        ((s.checkModule content).run w).2.calls = w.calls ++ [call] →
        (s.runner w.calls.length call.launch call.files).1 = .exited 0 said → said.getD [] = raw →
        let answer := ((s.checkModule content).run w).1
        (Report.Readable raw → ∃ d more, answer = .ok (.checkFailed (d :: more) raw)) ∧
        (¬ Report.Readable raw → ∃ fault, answer = .error (.badReport fault)) := by
  refine ⟨Toolchain.hasReports_iff, fun line mem header front positive => ?_⟩
  have shown := Report.parse_ne_nil mem front positive
  refine ⟨shown, ?_⟩
  intro s w content call said bare calls ended output
  have loud : Toolchain.hasReports raw = true :=
    Toolchain.hasReports_iff.2 ⟨line, mem, header, front⟩
  rcases checkModule_starts s w content with none | ⟨u, other, again, -, answered⟩
  · simp [none] at calls
  obtain rfl : other = call := by simpa [calls] using again.symm
  rw [ended, answer_of_exited, output, bare, if_neg (by simp [loud])] at answered
  dsimp only
  rw [answered]
  cases parsed : Report.parse 0 raw with
  | error fault =>
      have garbled : ¬ Report.Readable raw := by
        rw [← Report.parse_ok_iff 0, parsed]
        simp
      exact ⟨fun readable => absurd readable garbled, fun _ => ⟨fault, by simp [answerOf, parsed]⟩⟩
  | ok found =>
      have readable : Report.Readable raw := (Report.parse_ok_iff 0 raw).1 ⟨found, parsed⟩
      obtain ⟨d, more, rfl⟩ := List.exists_cons_of_ne_nil fun none => shown (none ▸ parsed)
      exact ⟨fun _ => ⟨d, more, by simp [answerOf, parsed]⟩, fun garbled => absurd readable garbled⟩

/-- A service whose type checker prints this and exits with zero. -/
def printing (said : Text) : Service :=
  { obedientService with runner := fun _ _ files => (.exited 0 (some said), files) }

/-- A report on the second line of a source. -/
def notedHeader : Toolchain.Header where
  first := 'a'
  path := []
  digits := lit "2"
  column := '3'
  first_solid := by decide
  first_noColon := by decide
  path_noColon := by decide
  path_noFeed := by decide
  digits_nonempty := by decide
  digits_decimal := by decide
  column_decimal := by decide

/-- A header is shown that has a line with a colon before it in its block. -/
theorem report_never_lost_noting :
    let said := lit "note: y\na:2:3: x"
    lit "a:2:3: x" ∈ said.lines ∧ notedHeader.text <+: lit "a:2:3: x" ∧ notedHeader.number = 2 ∧
    ∃ call, (((printing said).checkModule (lit "y")).run emptyWorld).2.calls =
        emptyWorld.calls ++ [call] ∧
      ((printing said).runner emptyWorld.calls.length call.launch call.files).1 =
        .exited 0 (some said) ∧
      ∃ d more, (((printing said).checkModule (lit "y")).run emptyWorld).1 =
        .ok (.checkFailed (d :: more) said) := by
  intro said
  have mem : lit "a:2:3: x" ∈ said.lines := by decide
  have front : notedHeader.text <+: lit "a:2:3: x" := by decide
  have number : notedHeader.number = 2 := by decide
  have one : (((printing said).checkModule (lit "y")).run emptyWorld).2.calls.length = 1 := by
    decide +kernel
  obtain ⟨call, calls⟩ := List.length_eq_one_iff.1 one
  have ended : ((printing said).runner emptyWorld.calls.length call.launch call.files).1 =
      .exited 0 (some said) := rfl
  have readable : Report.Readable said := (Report.parse_ok_iff 0 _).1 ⟨_, rfl⟩
  obtain ⟨-, shown⟩ := (report_never_lost said).2 _ mem notedHeader front (by omega)
  have answered := (shown (printing said) emptyWorld (lit "y") call _ rfl calls ended rfl).1 readable
  exact ⟨mem, front, number, call, calls, ended, answered⟩

/-- A header that is printed is not shown, and there is no answer at all, where another block has a
superscript for its line number. -/
theorem printed_report_not_shown :
    let said := lit "a:2:3: x\n\nb:²:3: y"
    lit "a:2:3: x" ∈ said.lines ∧ notedHeader.text <+: lit "a:2:3: x" ∧ notedHeader.number = 2 ∧
    (printing said).settings.preludeLines = [] ∧
    (∀ n launch files, ((printing said).runner n launch files).1 = .exited 0 (some said)) ∧
    (((printing said).checkModule (lit "x")).run emptyWorld).2.calls.length = 1 ∧
    (((printing said).checkModule (lit "x")).run emptyWorld).1 =
      .error (.badReport (.notDecimal (lit "²"))) := by
  refine ⟨by decide, by decide, by decide, rfl, fun _ _ _ => rfl, ?_, eq_of_reportFault? ?_⟩
  · decide +kernel
  · decide +kernel

end Service

end CompileService
