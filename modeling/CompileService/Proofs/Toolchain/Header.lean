import CompileService.Number.Reading
import CompileService.Proofs.Text.Breaks
import CompileService.Toolchain.Header

/-!
# Headers line by line

The search for report headers runs over a text as a whole. What it finds is a header at the front of
a line, since a header holds no line feed: so each line decides for itself.

* `Header`: a header in its parts.
* `startsHeader_iff`: at the front of a text. `hasReports_iff`: at the front of some line.
* `IsReportLine`: a line with a header, written out. `hasReports_linewise`: the lines decide, and a
  line feed between two texts keeps their reports apart.
-/

namespace CompileService.Toolchain

open CodePoint

/-- The beginning of a line that marks a report: a path, the digits of a line number, and the first
digit of a column. -/
structure Header where
  /-- The first code point of the path. -/
  first : CodePoint
  /-- The path behind it. -/
  path : Text
  /-- The digits of the line number. -/
  digits : Text
  column : CodePoint
  first_solid : first.isBlank = false
  first_noColon : first ≠ colon
  path_noColon : colon ∉ path
  path_noFeed : lineFeed ∉ path
  digits_nonempty : digits ≠ []
  digits_decimal : ∀ c ∈ digits, c.isDecimal = true
  column_decimal : column.isDecimal = true

namespace Header

/-- The line number and the column, with the colons before them. -/
def position (h : Header) : Text := colon :: (h.digits ++ [colon, h.column])

/-- A header as it stands in a text. -/
def text (h : Header) : Text := h.first :: (h.path ++ h.position)

/-- The line number of a header. -/
def number (h : Header) : Nat := Reading.natural (h.digits.map fun c => c.decimalValue?.getD 0)

/-- There are no line breaks in a line number and a column. -/
theorem position_noBreak (h : Header) :
    ∀ c ∈ h.position, c ≠ lineFeed ∧ c ≠ carriageReturn := by
  intro c mem
  simp only [position, List.mem_cons, List.mem_append, List.not_mem_nil, or_false] at mem
  rcases mem with rfl | digit | rfl | rfl
  · decide
  · exact not_break_of_isDecimal (h.digits_decimal c digit)
  · decide
  · exact not_break_of_isDecimal h.column_decimal

theorem text_noFeed (h : Header) : lineFeed ∉ h.text := by
  have first : lineFeed ≠ h.first := by
    intro same
    have solid := h.first_solid
    rw [← same] at solid
    revert solid
    decide
  simp only [text, List.mem_cons, List.mem_append, not_or]
  exact ⟨first, h.path_noFeed, fun mem => (h.position_noBreak _ mem).1 rfl⟩

theorem position_suffix (h : Header) : h.position <:+ h.text := ⟨h.first :: h.path, rfl⟩

end Header

/-! ## At the front of a text -/

theorem dropWhile_eq_cons_iff {p : CodePoint → Bool} {t rest : Text} {c : CodePoint} :
    t.dropWhile p = c :: rest ↔
      ∃ front, t = front ++ c :: rest ∧ (∀ d ∈ front, p d = true) ∧ p c = false := by
  constructor
  · intro cut
    refine ⟨t.takeWhile p, ?_, List.all_eq_true.1 List.all_takeWhile, ?_⟩
    · rw [← cut, List.takeWhile_append_dropWhile]
    · have stops := List.head?_dropWhile_not p t
      rw [cut] at stops
      simpa using stops
  · rintro ⟨front, rfl, passed, stops⟩
    rw [List.dropWhile_append_of_pos passed, List.dropWhile_cons_of_neg (by simp [stops])]

theorem startsNumber_iff {t : Text} :
    startsNumber t = true ↔ ∃ c rest, t = c :: rest ∧ c.isDecimal = true := by
  cases t with
  | nil => simp [startsNumber]
  | cons c rest => simp [startsNumber]

theorem colon_not_decimal : colon.isDecimal = false := by decide

theorem startsPosition_iff {t : Text} :
    startsPosition t = true ↔ ∃ digits column rest, t = digits ++ colon :: column :: rest ∧
      digits ≠ [] ∧ (∀ c ∈ digits, c.isDecimal = true) ∧ column.isDecimal = true := by
  unfold startsPosition
  rw [Bool.and_eq_true]
  constructor
  · rintro ⟨number, position⟩
    split at position
    · cases position
    · rename_i c rest cut
      rw [Bool.and_eq_true, beq_iff_eq, startsNumber_iff] at position
      obtain ⟨rfl, column, behind, rfl, decimal⟩ := position
      obtain ⟨digits, rfl, all, -⟩ := dropWhile_eq_cons_iff.1 cut
      refine ⟨digits, column, behind, rfl, ?_, all, decimal⟩
      rintro rfl
      cases number
  · rintro ⟨digits, column, rest, rfl, nonempty, all, decimal⟩
    obtain ⟨d, more, rfl⟩ := List.exists_cons_of_ne_nil nonempty
    refine ⟨all d List.mem_cons_self, ?_⟩
    rw [dropWhile_eq_cons_iff.2 ⟨d :: more, rfl, all, colon_not_decimal⟩]
    simp [startsNumber, decimal]

theorem restOfHeader_iff {t : Text} :
    restOfHeader t = true ↔ ∃ path rest, t = path ++ colon :: rest ∧ colon ∉ path ∧
      lineFeed ∉ path ∧ startsPosition rest = true := by
  unfold restOfHeader
  constructor
  · intro found
    split at found
    · cases found
    · rename_i c rest cut
      rw [Bool.and_eq_true, beq_iff_eq] at found
      obtain ⟨rfl, position⟩ := found
      obtain ⟨path, rfl, passed, -⟩ := dropWhile_eq_cons_iff.1 cut
      refine ⟨path, rest, rfl, fun mem => ?_, fun mem => ?_, position⟩
      · exact (of_decide_eq_true (passed _ mem)).1 rfl
      · exact (of_decide_eq_true (passed _ mem)).2 rfl
  · rintro ⟨path, rest, rfl, noColon, noFeed, position⟩
    have passed : ∀ d ∈ path, decide (d ≠ colon ∧ d ≠ lineFeed) = true := by
      intro d mem
      exact decide_eq_true ⟨fun same => noColon (same ▸ mem), fun same => noFeed (same ▸ mem)⟩
    rw [dropWhile_eq_cons_iff.2 ⟨path, rfl, passed, by decide⟩]
    simp [position]

/-- A header is found at the front of a text where there is one. -/
theorem startsHeader_iff {t : Text} : startsHeader t = true ↔ ∃ h : Header, h.text <+: t := by
  constructor
  · intro found
    cases t with
    | nil => cases found
    | cons c rest =>
        simp only [startsHeader, Bool.and_eq_true, Bool.not_eq_true', bne_iff_ne] at found
        obtain ⟨⟨solid, noColon⟩, later⟩ := found
        obtain ⟨path, behind, rfl, free, line, position⟩ := restOfHeader_iff.1 later
        obtain ⟨digits, column, more, rfl, nonempty, all, decimal⟩ := startsPosition_iff.1 position
        exact ⟨⟨c, path, digits, column, solid, noColon, free, line, nonempty, all, decimal⟩, more,
          by simp [Header.text, Header.position]⟩
  · rintro ⟨h, more, rfl⟩
    have position : startsPosition (h.digits ++ colon :: h.column :: more) = true :=
      startsPosition_iff.2 ⟨_, _, _, rfl, h.digits_nonempty, h.digits_decimal, h.column_decimal⟩
    have later : restOfHeader (h.path ++ colon :: (h.digits ++ colon :: h.column :: more)) = true :=
      restOfHeader_iff.2 ⟨_, _, rfl, h.path_noColon, h.path_noFeed, position⟩
    simp [Header.text, Header.position, startsHeader, h.first_solid, h.first_noColon, later]

/-! ## At the front of a line -/

theorem prefix_line_iff {part t line : Text} {more : List Text} (free : lineFeed ∉ part)
    (cut : t.lines = line :: more) : part <+: t ↔ part <+: line := by
  constructor
  · rintro ⟨rest, rfl⟩
    obtain ⟨first, others, later⟩ :=
      List.exists_cons_of_ne_nil (Text.splitAt_ne_nil lineFeed rest)
    rw [Text.lines, Text.splitAt_append_left free later] at cut
    obtain ⟨rfl, -⟩ := List.cons.inj cut
    exact List.prefix_append part first
  · intro front
    have whole := Text.joinWith_splitAt lineFeed t
    rw [← Text.lines, cut] at whole
    rw [← whole]
    cases more with
    | nil => exact front
    | cons next others =>
        rw [Text.joinWith_cons_cons, List.append_assoc]
        exact front.trans (List.prefix_append _ _)

/-- The first line of a text decides whether there is a header at the front. -/
theorem startsHeader_line {t line : Text} {more : List Text} (cut : t.lines = line :: more) :
    startsHeader t = startsHeader line := by
  rw [Bool.eq_iff_iff, startsHeader_iff, startsHeader_iff]
  exact exists_congr fun h => prefix_line_iff h.text_noFeed cut

/-- The other lines decide whether there is a header behind a line feed. -/
theorem headerAfterBreak_iff {t line : Text} {more : List Text} (cut : t.lines = line :: more) :
    headerAfterBreak t = true ↔ ∃ other ∈ more, startsHeader other = true := by
  induction t generalizing line more with
  | nil =>
      obtain ⟨-, rfl⟩ := List.cons.inj cut
      simp [headerAfterBreak]
  | cons c rest ih =>
      obtain ⟨first, others, later⟩ :=
        List.exists_cons_of_ne_nil (Text.splitAt_ne_nil lineFeed rest)
      rw [headerAfterBreak, Bool.or_eq_true, Bool.and_eq_true, beq_iff_eq, ih later,
        startsHeader_line later]
      rw [Text.lines, Text.splitAt, later] at cut
      by_cases feed : c = lineFeed
      · rw [if_pos feed] at cut
        obtain ⟨-, rfl⟩ := List.cons.inj cut
        simp [feed]
      · rw [if_neg feed] at cut
        obtain ⟨-, rfl⟩ := List.cons.inj cut
        simp [feed]

/-- A text reports something if there is a header at the front of one of its lines. -/
theorem hasReports_iff {t : Text} :
    hasReports t = true ↔ ∃ line ∈ t.lines, ∃ h : Header, h.text <+: line := by
  obtain ⟨line, more, cut⟩ := List.exists_cons_of_ne_nil (Text.splitAt_ne_nil lineFeed t)
  rw [hasReports, Bool.or_eq_true, headerAfterBreak_iff cut, startsHeader_line cut, Text.lines, cut]
  simp only [← startsHeader_iff, List.mem_cons, exists_eq_or_imp]

/-! ## Line by line -/

/-- A line that marks a report: it begins with a code point that is neither blank nor a colon and a
path without a colon, and the digits of a line number and the first digit of a column follow behind
colons. -/
def IsReportLine (line : Text) : Prop :=
  ∃ (first : CodePoint) (path digits : Text) (column : CodePoint) (rest : Text),
    line = first :: (path ++ colon :: (digits ++ colon :: column :: rest)) ∧
    first.isBlank = false ∧ first ≠ colon ∧ colon ∉ path ∧
    digits ≠ [] ∧ (∀ d ∈ digits, d.isDecimal = true) ∧ column.isDecimal = true

/-- In a line no path has a line feed, so that a header may be told without saying so. -/
theorem isReportLine_iff {line : Text} (free : lineFeed ∉ line) :
    IsReportLine line ↔ ∃ h : Header, h.text <+: line := by
  constructor
  · rintro ⟨first, path, digits, column, rest, rfl, solid, noColon, clear, nonempty, all, decimal⟩
    have noFeed : lineFeed ∉ path := fun mem =>
      free (List.mem_cons_of_mem _ (List.mem_append_left _ mem))
    exact ⟨⟨first, path, digits, column, solid, noColon, clear, noFeed, nonempty, all, decimal⟩,
      rest, by simp [Header.text, Header.position]⟩
  · rintro ⟨h, rest, rfl⟩
    exact ⟨h.first, h.path, h.digits, h.column, rest, by simp [Header.text, Header.position],
      h.first_solid, h.first_noColon, h.path_noColon, h.digits_nonempty, h.digits_decimal,
      h.column_decimal⟩

/-- A text reports something just if one of its lines marks a report. So no header goes over a line
feed: two texts with one between them report something just if one of the two does. -/
theorem hasReports_linewise :
    (∀ t : Text, hasReports t = true ↔ ∃ line ∈ t.lines, IsReportLine line) ∧
    ∀ a b : Text, hasReports (a ++ lineFeed :: b) = (hasReports a || hasReports b) := by
  constructor
  · intro t
    rw [hasReports_iff]
    refine exists_congr fun line => and_congr_right fun mem => ?_
    exact (isReportLine_iff (Text.not_mem_of_mem_splitAt mem)).symm
  · intro a b
    have lines : (a ++ lineFeed :: b).lines = a.lines ++ b.lines := Text.splitAt_append_cons a b
    rw [Bool.eq_iff_iff, Bool.or_eq_true, hasReports_iff, hasReports_iff, hasReports_iff, lines]
    simp only [List.mem_append, or_and_right, exists_or]

end CompileService.Toolchain
