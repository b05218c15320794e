import CompileService.Proofs.Diagnostic.Layout
import CompileService.Proofs.Service.Starts

/-!
# The lines of a source and those of a report

A type checker sees a source behind the prelude, so its report numbers the lines of the file; the
numbers are lowered by the number of the prelude's entries. An entry with a line feed is more than
one line of the file, and then the numbers that are left are too large.

* `headerLines`, `missedLines`: the lines that stand before a source, and those of them that are not
  counted. `lines_formatForCheck`: the file is these lines and those of the source.
* `Report.exists_line_of_header`: a report's message behind a header with a line number.
* `reported_line`: at which line of the source a message is reported.
-/

namespace CompileService

open CodePoint

namespace Report

/-- A line number that can be read is read up to the colon that follows it. -/
theorem lineNumber_of_readable {path rest : Text} {n : Nat} (free : colon ∉ path)
    (readable : ReadableNumber (afterColon (path ++ colon :: (Text.ofNat n ++ colon :: rest)))) :
    lineNumber (path ++ colon :: (Text.ofNat n ++ colon :: rest)) = .ok n := by
  obtain ⟨m, number⟩ := (leadingNumber_ok_iff _).2 readable
  have decimal : ∀ c ∈ Text.ofNat n, c.isDecimal = true := fun c => Text.isDecimal_of_mem_ofNat
  rw [afterColon_append free, leadingNumber_of_decimals decimal, Text.natural_ofNat] at number
  rw [lineNumber, afterColon_append free, leadingNumber_of_decimals decimal, Text.natural_ofNat]
  split at number
  · cases number
  · rename_i short
    exact if_neg short

/-- A report that is read has a diagnostic for each block behind a header, at the line of the
header lowered by the lines that are skipped. -/
theorem exists_line_of_header {lineSkip : Int} {raw path rest : Text} {n : Nat}
    {found : List Diagnostic} (parsed : parse lineSkip raw = .ok found) (free : colon ∉ path)
    (mem : path ++ colon :: (Text.ofNat n ++ colon :: rest) ∈ blocks raw.dropReturns)
    (kept : 1 ≤ (n : Int) - lineSkip) :
    ∃ d ∈ found, parseBlock lineSkip (path ++ colon :: (Text.ofNat n ++ colon :: rest)) =
      .ok (some d) ∧ d.line = n - lineSkip := by
  have readable := (parse_ok_iff lineSkip raw).1 ⟨found, parsed⟩ _ mem
  have read := parseBlock_some_iff.2
    ⟨n, lineNumber_of_readable free readable, fun low => Int.not_lt.2 kept low.1, rfl⟩
  exact ⟨_, (mem_parseBlocks_iff parsed).2 ⟨_, mem, read⟩, read, rfl⟩

end Report

namespace Service

/-! ## The file -/

/-- The lines that the prelude puts before a source. -/
def headerLines (prelude : List Text) : List Text := prelude.flatMap Text.lines

/-- The lines among them that the number of entries does not count. -/
def missedLines (prelude : List Text) : Nat := (prelude.map fun entry => entry.count lineFeed).sum

/-- The file has the lines of the prelude and then those of the source. -/
theorem lines_formatForCheck (content : Text) (prelude : List Text) :
    (formatForCheck content prelude).2.lines = headerLines prelude ++ content.lines := by
  induction prelude with
  | nil => rfl
  | cons entry more ih =>
      simp only [formatForCheck, Text.lines, headerLines, List.flatMap_cons, List.append_assoc,
        List.cons_append, List.nil_append] at ih ⊢
      rw [Text.splitAt_append_cons, ih]

theorem length_headerLines (content : Text) (prelude : List Text) :
    (headerLines prelude).length = (formatForCheck content prelude).1 + missedLines prelude := by
  induction prelude with
  | nil => rfl
  | cons entry more ih =>
      simp only [formatForCheck, headerLines, missedLines, List.flatMap_cons, List.length_append,
        List.length_cons, List.map_cons, List.sum_cons, Text.lines, Text.length_splitAt] at ih ⊢
      omega

theorem missedLines_eq_zero_iff (prelude : List Text) :
    missedLines prelude = 0 ↔ ∀ entry ∈ prelude, lineFeed ∉ entry := by
  induction prelude with
  | nil => simp [missedLines]
  | cons entry more ih =>
      rw [missedLines, List.map_cons, List.sum_cons, ← missedLines, Nat.add_eq_zero_iff, ih,
        List.count_eq_zero, List.forall_mem_cons]

/-- What is left of the file without the lines that are counted is the source, exactly if no line of
the prelude is missed. -/
theorem drop_formatForCheck_iff (content : Text) (prelude : List Text) :
    (formatForCheck content prelude).2.lines.drop (formatForCheck content prelude).1 =
        content.lines ↔ ∀ entry ∈ prelude, lineFeed ∉ entry := by
  have length := length_headerLines content prelude
  rw [lines_formatForCheck, ← missedLines_eq_zero_iff]
  constructor
  · intro same
    have lengths := congrArg List.length same
    rw [List.length_drop, List.length_append] at lengths
    omega
  · intro none
    rw [none, Nat.add_zero] at length
    rw [← length, List.drop_left]

/-! ## The report -/

/-- What a type check answers when its process has exited. -/
theorem answer_of_exited (id : Text) (lineSkip : Nat) (launch : Launch) (status : Int)
    (said : Option Text) :
    ((Toolchain.verdict launch (.exited status said)).map Toolchain.checked).bind
        (answerOf id lineSkip) =
      if status = 0 ∧ Toolchain.hasReports (said.getD []) = false then .ok (.checkOk id)
      else answerOf id lineSkip ⟨.failed, said.getD []⟩ := by
  rw [Toolchain.checked_exited]
  by_cases good : status = 0 ∧ Toolchain.hasReports (said.getD []) = false
  · rw [if_pos good, if_pos good]
    rfl
  · rw [if_neg good, if_neg good]
    rfl

/-- The file of a type check holds the lines of the prelude and then those of the source; and where
its process has failed or reported something, and the report can be read, a message behind the
header of the line at which the file holds line `j` of the source is reported at line `j`, increased
by the lines of the prelude that are not counted. So it is reported at line `j`, and the file
without the lines that are counted is the source, exactly if no entry of the prelude holds a line
feed. -/
theorem reported_line (s : Service) (w : World) (content : Text) :
    let prelude := s.settings.preludeLines
    let skip := (formatForCheck content prelude).1
    let file := (formatForCheck content prelude).2
    file.lines = headerLines prelude ++ content.lines ∧
    (file.lines.drop skip = content.lines ↔ ∀ entry ∈ prelude, lineFeed ∉ entry) ∧
    ∀ call status said, ((s.checkModule content).run w).2.calls = w.calls ++ [call] →
      (s.runner w.calls.length call.launch call.files).1 = .exited status said →
      ∃ u, (s.sourcePath u).toText ∈ call.launch.argv ∧
        FileTree.fileContent call.files (s.sourcePath u) = .ok (Utf8.encodeAll file) ∧
        let raw := said.getD []
        let answer := ((s.checkModule content).run w).1
        let quiet := status = 0 ∧ Toolchain.hasReports raw = false
        (quiet → answer = .ok (.checkOk u.toText)) ∧
        (¬ quiet → ¬ Report.Readable raw → ∃ fault, answer = .error (.badReport fault)) ∧
        (¬ quiet → Report.Readable raw →
          ∃ diagnostics, answer = .ok (.checkFailed diagnostics raw) ∧
            ∀ path (j : Nat) rest, Report.colon ∉ path → 1 ≤ j →
              let number := Text.ofNat ((headerLines prelude).length + j)
              let block := path ++ Report.colon :: (number ++ Report.colon :: rest)
              block ∈ Report.blocks raw.dropReturns →
                ∃ d ∈ diagnostics, Report.parseBlock skip block = .ok (some d) ∧
                  d.line = j + missedLines prelude ∧
                  (d.line = j ↔ ∀ entry ∈ prelude, lineFeed ∉ entry)) := by
  intro prelude skip file
  refine ⟨lines_formatForCheck content prelude, drop_formatForCheck_iff content prelude, ?_⟩
  intro call status said calls ended
  rcases checkModule_starts s w content with none | ⟨u, other, again, started, answered⟩
  · simp [none] at calls
  obtain rfl : other = call := by simpa [calls] using again.symm
  refine ⟨u, started.named, started.held, ?_⟩
  rw [ended, answer_of_exited] at answered
  dsimp only
  rw [answered]
  refine ⟨fun quiet => if_pos quiet, fun loud garbled => ?_, fun loud readable => ?_⟩
  · rw [if_neg loud]
    cases parsed : Report.parse s.settings.preludeLines.length (said.getD []) with
    | ok diagnostics => exact absurd ((Report.parse_ok_iff _ _).1 ⟨_, parsed⟩) garbled
    | error fault => exact ⟨fault, by simp only [answerOf, parsed]⟩
  · obtain ⟨diagnostics, parsed⟩ :=
      (Report.parse_ok_iff s.settings.preludeLines.length _).2 readable
    rw [if_neg loud]
    refine ⟨diagnostics, by simp only [answerOf, parsed], ?_⟩
    intro path j rest free positive mem
    -- the header's number is that of the lines before the source, the counted ones and the others
    have length : (headerLines prelude).length = skip + missedLines prelude :=
      length_headerLines content prelude
    have counted : skip = s.settings.preludeLines.length := rfl
    obtain ⟨d, found, read, line⟩ := Report.exists_line_of_header parsed free mem (by omega)
    have shifted : d.line = j + missedLines prelude := by
      rw [line, length, counted]
      omega
    refine ⟨d, found, read, shifted, ?_⟩
    rw [shifted, ← missedLines_eq_zero_iff]
    omega

/-- A report about the second line of the file is one about the first line of a source that stands
behind one line. -/
theorem reported_line_prelude :
    ∃ call, ((preludeService.checkModule (lit "y")).run libraryWorld).2.calls =
        libraryWorld.calls ++ [call] ∧
      (preludeService.runner libraryWorld.calls.length call.launch call.files).1 =
        .exited 1 (some (lit "a:2:3: x")) ∧
      ∃ diagnostics, ((preludeService.checkModule (lit "y")).run libraryWorld).1 =
          .ok (.checkFailed diagnostics (lit "a:2:3: x")) ∧
        ∃ d ∈ diagnostics, d.line = 1 := by
  have one : ((preludeService.checkModule (lit "y")).run libraryWorld).2.calls.length = 1 := by
    decide +kernel
  obtain ⟨call, calls⟩ := List.length_eq_one_iff.1 one
  have ended : (preludeService.runner libraryWorld.calls.length call.launch call.files).1 =
      .exited 1 (some (lit "a:2:3: x")) := rfl
  obtain ⟨u, -, -, -, -, failed⟩ :=
    (reported_line preludeService libraryWorld (lit "y")).2.2 call 1 _ calls ended
  have readable : Report.Readable (lit "a:2:3: x") := (Report.parse_ok_iff 0 _).1 ⟨_, rfl⟩
  obtain ⟨diagnostics, answered, lines⟩ := failed (by simp) readable
  obtain ⟨d, found, -, -, same⟩ :=
    lines (lit "a") 1 (lit "3: x") (by decide) (by decide) (by decide)
  exact ⟨call, calls, ended, diagnostics, answered, d, found, same.2 (by decide)⟩

/-- A service whose prelude has one entry of two lines. -/
def brokenPreludeService : Service :=
  { reporting (lit "f:3:1: e") with settings := { preludeLines := [lit "a\nb"] } }

/-- The third line of the file is the first one of the source, but a report about it is given for
the second line: the entry counts as one line. -/
theorem broken_entry_misplaces_lines :
    (formatForCheck (lit "x") [lit "a\nb"]).2.lines = [lit "a", lit "b", lit "x"] ∧
    (formatForCheck (lit "x") [lit "a\nb"]).2.lines.drop (formatForCheck (lit "x") [lit "a\nb"]).1 ≠
      (lit "x").lines ∧
    ((brokenPreludeService.checkModule (lit "x")).run emptyWorld).1.toOption =
      some (.checkFailed [⟨.error, 2, lit "e"⟩] (lit "f:3:1: e")) := by
  decide +kernel

end Service

end CompileService
