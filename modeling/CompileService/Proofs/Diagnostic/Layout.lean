import CompileService.Proofs.Diagnostic.Blocks
import CompileService.Proofs.Text.Number

/-!
# The layout of reports

A message is written behind a header with a path, a line number and a column, or below it; the lines
that follow are indented. Reports in this layout are read as the messages that they were written
from.

* `Written`: a message with the choices that its layout leaves, and what its parts must not hold.
* `Written.lines`, `document`: its lines, and a whole report.
* `dedent_cases`, `splitWarning_cases`: what is taken off a line, and off a text.
* `parseBlock_lines`: one message is read. `parse_document`: all of them are, and nothing else.
-/

namespace CompileService.Report

open CodePoint

/-- A colon. -/
def colon : CodePoint := ':'

/-- A space. -/
def space : CodePoint := ' '

/-- A field of a header: neither colons nor line breaks. -/
structure IsField (t : Text) : Prop where
  noColon : colon ∉ t
  noReturn : carriageReturn ∉ t
  noFeed : lineFeed ∉ t

/-- A line of a message: not empty, and no line breaks. -/
structure IsLine (t : Text) : Prop where
  nonempty : t ≠ []
  noReturn : carriageReturn ∉ t
  noFeed : lineFeed ∉ t

/-- A line that would be taken for the beginning of a warning. -/
def Marked (line : Text) : Prop := line = warningMark ∨ warningMark ++ [space] <+: line

/-- A message as it is written. -/
structure Written where
  severity : Severity
  path : Text
  number : Nat
  column : Text
  /-- The first line of the text. -/
  first : Text
  more : List Text
  /-- Whether the text begins on the line below the header. -/
  hanging : Bool
  /-- Whether the mark of a warning has a line of its own. -/
  markAlone : Bool
  path_isField : IsField path
  column_isField : IsField column
  short : (Text.ofNat number).length ≤ digitLimit
  isLine : ∀ line ∈ first :: more, IsLine line
  unmarked : severity = .error → ¬ Marked first
  /-- Spaces behind the header are no part of an error's text. -/
  flush : severity = .error → hanging = false → first.head? ≠ some space

namespace Written

/-- The message that is meant. -/
def diagnostic (lineSkip : Nat) (m : Written) : Diagnostic :=
  ⟨m.severity, m.number - lineSkip, Text.unlines (m.first :: m.more)⟩

/-- The path, the line number and the column, with a colon after each. -/
def header (m : Written) : Text :=
  m.path ++ colon :: (Text.ofNat m.number ++ colon :: (m.column ++ [colon]))

/-- The lines of the text with the mark of a warning: the first one, and the others. -/
def marked (m : Written) : Text × List Text :=
  match m.severity, m.markAlone with
  | .error, _ => (m.first, m.more)
  | .warning, false => (warningMark ++ space :: m.first, m.more)
  | .warning, true => (warningMark, m.first :: m.more)

/-- The lines of the message. -/
def lines (m : Written) : List Text :=
  let (line, others) := m.marked
  if m.hanging then m.header :: (line :: others).map (indent ++ ·)
  else (m.header ++ space :: line) :: others.map (indent ++ ·)

end Written

/-- The lines of a report, with an empty one between two messages. -/
def documentLines : List Written → List Text
  | [] => []
  | [m] => m.lines
  | m :: more => m.lines ++ [] :: documentLines more

/-- A report, with line breaks of any kind. -/
def document (breaks : Nat → LineBreak) (ms : List Written) : Text :=
  Text.broken breaks (documentLines ms)

/-! ## Fields -/

theorem afterColon_append {front : Text} (free : colon ∉ front) (rest : Text) :
    afterColon (front ++ colon :: rest) = rest := by
  induction front with
  | nil => exact if_pos rfl
  | cons c more ih =>
      simp only [List.mem_cons, not_or] at free
      have other : ¬ c = ofChar ':' := Ne.symm free.1
      rw [List.cons_append, afterColon, if_neg other, ih free.2]

theorem colon_not_mem_ofNat (n : Nat) : colon ∉ Text.ofNat n := by
  intro mem
  have digit := Text.isDecimal_of_mem_ofNat mem
  revert digit
  decide

/-- Decimal digits are read up to the colon, unless there are too many. -/
theorem leadingNumber_of_decimals {digits : Text} (decimal : ∀ c ∈ digits, c.isDecimal = true)
    (rest : Text) :
    leadingNumber (digits ++ colon :: rest) =
      if digitLimit < digits.length then .error (.tooLong digits.length)
      else .ok (Reading.natural (digits.map fun c => c.decimalValue?.getD 0)) := by
  have digit : ∀ c ∈ digits, c.isDigit = true := by
    intro c mem
    rw [isDigit, decimal c mem, Bool.true_or]
  have stop : (colon :: rest).takeWhile isDigit = [] :=
    List.takeWhile_cons_of_neg (by decide)
  have all : (digits ++ colon :: rest).takeWhile isDigit = digits := by
    rw [List.takeWhile_append_of_pos digit, stop, List.append_nil]
  have decimals : (digits ++ []).takeWhile isDecimal = digits ++ [] :=
    List.takeWhile_append_of_pos decimal
  rw [List.append_nil] at decimals
  unfold leadingNumber
  simp only [all, decimals, Nat.lt_irrefl, if_false]

/-- The digits of a number that is not too long are read up to the colon. -/
theorem leadingNumber_ofNat {n : Nat} (short : (Text.ofNat n).length ≤ digitLimit) (rest : Text) :
    leadingNumber (Text.ofNat n ++ colon :: rest) = .ok n := by
  rw [leadingNumber_of_decimals fun c => Text.isDecimal_of_mem_ofNat, if_neg (Nat.not_lt.2 short),
    Text.natural_ofNat]

/-! ## Texts -/

theorem dedent_indent (line : Text) : dedent (indent ++ line) = line := by
  rw [dedent, Text.dropStart?_append, Option.getD_some]

theorem dedent_cases (line : Text) : dedent line = line ∨ line = indent ++ dedent line := by
  unfold dedent
  cases dropped : Text.dropStart? indent line with
  | none => exact .inl rfl
  | some rest => exact .inr (Text.eq_append_of_dropStart? dropped)

/-- A line that does not begin with a space is not indented. -/
theorem dedent_of_flush {line : Text} (flush : line.head? ≠ some space) : dedent line = line := by
  rcases dedent_cases line with same | indented
  · exact same
  · rw [indented] at flush
    exact absurd rfl flush

theorem unlines_ne_nil {line : Text} (nonempty : line ≠ []) (others : List Text) :
    Text.unlines (line :: others) ≠ [] := by
  cases others with
  | nil => exact nonempty
  | cons next more => simp [Text.unlines, Text.joinWith_cons_cons]

theorem unlines_cons {others : List Text} (nonempty : others ≠ []) (line : Text) :
    Text.unlines (line :: others) = line ++ lineFeed :: Text.unlines others := by
  obtain ⟨next, more, rfl⟩ := List.exists_cons_of_ne_nil nonempty
  simp [Text.unlines, Text.joinWith_cons_cons]

theorem unlines_append_left (front line : Text) (others : List Text) :
    Text.unlines ((front ++ line) :: others) = front ++ Text.unlines (line :: others) :=
  Text.joinWith_append_left _ front line others

theorem lines_unlines {line : Text} {others : List Text}
    (free : ∀ l ∈ line :: others, lineFeed ∉ l) :
    Text.lines (Text.unlines (line :: others)) = line :: others :=
  Text.splitAt_joinWith (List.cons_ne_nil line others) free

/-- A line stays one with something in front of it that has no line breaks. -/
theorem IsLine.behind {front line : Text} (noReturn : carriageReturn ∉ front)
    (noFeed : lineFeed ∉ front) (h : IsLine line) : IsLine (front ++ line) := by
  refine ⟨by simp [h.nonempty], ?_, ?_⟩
  · rw [List.mem_append, not_or]
    exact ⟨noReturn, h.noReturn⟩
  · rw [List.mem_append, not_or]
    exact ⟨noFeed, h.noFeed⟩

theorem IsLine.indented {line : Text} (h : IsLine line) : IsLine (indent ++ line) :=
  h.behind (by decide) (by decide)

theorem IsLine.spaced {line : Text} (h : IsLine line) : IsLine (space :: line) :=
  show IsLine ([space] ++ line) from h.behind (by decide) (by decide)

/-! ## The mark of a warning -/

/-- The mark goes with the space or the line feed behind it. -/
theorem splitWarning_mark {c : CodePoint} (sep : c = space ∨ c = lineFeed) (rest : Text) :
    splitWarning (warningMark ++ c :: rest) = (true, rest) := by
  rw [splitWarning, Text.dropStart?_append]
  exact if_pos sep

/-- A text is taken as it is; or it is the mark alone, or begins with the mark and a separator. -/
theorem splitWarning_cases (t : Text) :
    splitWarning t = (false, t) ∨ (t = warningMark ∧ splitWarning t = (true, [])) ∨
      ∃ c rest, (c = space ∨ c = lineFeed) ∧ t = warningMark ++ c :: rest ∧
        splitWarning t = (true, rest) := by
  cases dropped : Text.dropStart? warningMark t with
  | none => exact .inl (by rw [splitWarning, dropped])
  | some behind =>
      obtain rfl := Text.eq_append_of_dropStart? dropped
      cases behind with
      | nil => exact .inr (.inl ⟨List.append_nil _, by rw [splitWarning, dropped]⟩)
      | cons c rest =>
          by_cases sep : c = space ∨ c = lineFeed
          · exact .inr (.inr ⟨c, rest, sep, rfl, splitWarning_mark sep rest⟩)
          · refine .inl ?_
            rw [splitWarning, dropped]
            exact if_neg sep

/-! ## One message -/

section
variable {line : Text} {others : List Text}

/-- The lines below the header, without their indent. -/
theorem message_hanging {fields : Text} (fieldsRead : ∀ rest,
      afterColon (afterColon (afterColon (fields ++ rest))) = rest)
    (isLine : ∀ l ∈ line :: others, IsLine l) :
    message (Text.unlines (fields :: (line :: others).map (indent ++ ·))) =
      Text.unlines (line :: others) := by
  have below : (line :: others).map (indent ++ ·) ≠ [] := by simp
  have free : ∀ l ∈ [] :: (line :: others).map (indent ++ ·), lineFeed ∉ l := by
    intro l mem
    rcases List.mem_cons.1 mem with rfl | mem
    · simp
    · obtain ⟨plain, inside, rfl⟩ := List.mem_map.1 mem
      exact (isLine plain inside).indented.noFeed
  -- the end of the header's line leaves an empty line before the others, and that is dropped
  have shown : (lineFeed :: Text.unlines ((line :: others).map (indent ++ ·))) =
      Text.unlines ([] :: (line :: others).map (indent ++ ·)) := by
    rw [unlines_cons below, List.nil_append]
  have kept : ((line :: others).map (indent ++ ·)).map dedent = line :: others := by
    rw [List.map_map]
    exact (List.map_congr_left fun l _ => dedent_indent l).trans (List.map_id _)
  have full : (line :: others).filter (fun l => l ≠ []) = line :: others :=
    List.filter_eq_self.2 fun l mem => decide_eq_true (isLine l mem).nonempty
  unfold message
  rw [unlines_cons below, fieldsRead]
  dsimp only
  rw [List.dropWhile_cons_of_neg (by decide), shown, lines_unlines free, List.map_cons, kept,
    List.filter_cons_of_neg (by decide), full]

/-- The line behind the header, without the space before it, and the lines below. -/
theorem message_inline {fields : Text} (fieldsRead : ∀ rest,
      afterColon (afterColon (afterColon (fields ++ rest))) = rest)
    (flush : line.head? ≠ some space) (isLine : ∀ l ∈ line :: others, IsLine l) :
    message (Text.unlines ((fields ++ space :: line) :: others.map (indent ++ ·))) =
      Text.unlines (line :: others) := by
  have free : ∀ l ∈ line :: others.map (indent ++ ·), lineFeed ∉ l := by
    intro l mem
    rcases List.mem_cons.1 mem with rfl | mem
    · exact (isLine l List.mem_cons_self).noFeed
    · obtain ⟨plain, inside, rfl⟩ := List.mem_map.1 mem
      exact (isLine plain (List.mem_cons_of_mem _ inside)).indented.noFeed
  have kept : (line :: others.map (indent ++ ·)).map dedent = line :: others := by
    rw [List.map_cons, dedent_of_flush flush, List.map_map]
    congr 1
    exact (List.map_congr_left fun l _ => dedent_indent l).trans (List.map_id _)
  have full : (line :: others).filter (fun l => l ≠ []) = line :: others :=
    List.filter_eq_self.2 fun l mem => decide_eq_true (isLine l mem).nonempty
  -- behind the header one space is dropped, and no more since the line does not begin with one
  have start : (Text.unlines (line :: others.map (indent ++ ·))).dropWhile (· = ofChar ' ') =
      Text.unlines (line :: others.map (indent ++ ·)) := by
    obtain ⟨c, tail, rfl⟩ := List.exists_cons_of_ne_nil (isLine line List.mem_cons_self).nonempty
    have other : c ≠ ofChar ' ' := by
      rintro rfl
      exact flush rfl
    rw [show (c :: tail : Text) = [c] ++ tail from rfl, unlines_append_left]
    exact List.dropWhile_cons_of_neg (by simpa using other)
  unfold message
  rw [unlines_append_left, fieldsRead]
  dsimp only
  rw [show (space :: line : Text) = [space] ++ line from rfl, unlines_append_left,
    List.singleton_append, List.dropWhile_cons_of_pos (by decide), start, lines_unlines free, kept,
    full]

/-- Only a line that is marked is taken for the beginning of a warning. -/
theorem splitWarning_of_unmarked (unmarked : ¬ Marked line)
    (isLine : ∀ l ∈ line :: others, IsLine l) :
    splitWarning (Text.unlines (line :: others)) = (false, Text.unlines (line :: others)) := by
  have lines := lines_unlines fun l mem => (isLine l mem).noFeed
  have markFree : lineFeed ∉ warningMark := by decide
  rcases splitWarning_cases (Text.unlines (line :: others)) with
    plain | ⟨alone, -⟩ | ⟨c, tail, sep, whole, -⟩
  · exact plain
  · rw [alone, Text.lines, Text.splitAt_of_not_mem markFree] at lines
    exact absurd (.inl (List.cons.inj lines).1.symm) unmarked
  · -- then the first line is the mark, or begins with the mark and a space
    rw [whole] at lines
    rcases sep with rfl | rfl
    · obtain ⟨first, more, cut⟩ :=
        List.exists_cons_of_ne_nil (Text.splitAt_ne_nil lineFeed tail)
      have front : lineFeed ∉ warningMark ++ [space] := by decide
      have shape : warningMark ++ space :: tail = warningMark ++ [space] ++ tail := by simp
      rw [shape, Text.lines, Text.splitAt_append_left front cut] at lines
      exact absurd (.inr ⟨first, (List.cons.inj lines).1⟩) unmarked
    · rw [Text.lines, Text.splitAt_append markFree] at lines
      exact absurd (.inl (List.cons.inj lines).1.symm) unmarked

theorem splitWarning_space (line : Text) (others : List Text) :
    splitWarning (Text.unlines ((warningMark ++ space :: line) :: others)) =
      (true, Text.unlines (line :: others)) := by
  have shape : warningMark ++ space :: line = warningMark ++ [space] ++ line := by simp
  rw [shape, unlines_append_left, List.append_assoc]
  exact splitWarning_mark (.inl rfl) _

theorem splitWarning_alone (line : Text) (others : List Text) :
    splitWarning (Text.unlines (warningMark :: line :: others)) =
      (true, Text.unlines (line :: others)) := by
  rw [unlines_cons (List.cons_ne_nil line others)]
  exact splitWarning_mark (.inr rfl) _

end

namespace Written

variable (m : Written)

theorem fields_read (rest : Text) :
    afterColon (afterColon (afterColon (m.header ++ rest))) = rest := by
  have shape : m.header ++ rest =
      m.path ++ colon :: (Text.ofNat m.number ++ colon :: (m.column ++ colon :: rest)) := by
    simp [header]
  rw [shape, afterColon_append m.path_isField.noColon, afterColon_append (colon_not_mem_ofNat _),
    afterColon_append m.column_isField.noColon]

theorem lineNumber_header (rest : Text) : lineNumber (m.header ++ rest) = .ok m.number := by
  have shape : m.header ++ rest =
      m.path ++ colon :: (Text.ofNat m.number ++ colon :: (m.column ++ colon :: rest)) := by
    simp [header]
  rw [lineNumber, shape, afterColon_append m.path_isField.noColon, leadingNumber_ofNat m.short]

/-- The mark of a warning and the lines of the text are lines, and the first does not begin with a
space if it stands behind the header. -/
theorem marked_isLine : ∀ l ∈ m.marked.1 :: m.marked.2, IsLine l := by
  have mark : IsLine warningMark := ⟨by decide, by decide, by decide⟩
  unfold marked
  split
  · exact m.isLine
  · intro l mem
    rcases List.mem_cons.1 mem with rfl | later
    · have first := m.isLine m.first List.mem_cons_self
      exact first.spaced.behind mark.noReturn mark.noFeed
    · exact m.isLine l (List.mem_cons_of_mem _ later)
  · intro l mem
    rcases List.mem_cons.1 mem with rfl | later
    · exact mark
    · exact m.isLine l later

theorem marked_flush (inline : m.hanging = false) : m.marked.1.head? ≠ some space := by
  unfold marked
  split
  · rename_i error
    exact m.flush error inline
  · show some (ofChar 'W') ≠ some space
    decide
  · show some (ofChar 'W') ≠ some space
    decide

/-- The mark of a warning is told from the text. -/
theorem splitWarning_marked :
    splitWarning (Text.unlines (m.marked.1 :: m.marked.2)) =
      (decide (m.severity = .warning), Text.unlines (m.first :: m.more)) := by
  unfold marked
  split
  · rename_i error
    rw [error]
    exact splitWarning_of_unmarked (m.unmarked error) m.isLine
  · rename_i warning _
    rw [warning]
    exact splitWarning_space m.first m.more
  · rename_i warning _
    rw [warning]
    exact splitWarning_alone m.first m.more

theorem message_lines :
    message (Text.unlines m.lines) = Text.unlines (m.marked.1 :: m.marked.2) := by
  unfold lines
  dsimp only
  by_cases hanging : m.hanging
  · rw [if_pos hanging]
    exact message_hanging m.fields_read m.marked_isLine
  · rw [if_neg hanging]
    exact message_inline m.fields_read (m.marked_flush (by simpa using hanging)) m.marked_isLine

theorem lineNumber_lines : lineNumber (Text.unlines m.lines) = .ok m.number := by
  have front : ∃ rest, Text.unlines m.lines = m.header ++ rest := by
    unfold lines
    dsimp only
    split
    · exact ⟨_, unlines_cons (by simp) m.header⟩
    · exact ⟨_, unlines_append_left m.header _ _⟩
  obtain ⟨rest, shape⟩ := front
  rw [shape, lineNumber_header]

/-- One message is read as it is meant. -/
theorem parseBlock_lines (lineSkip : Nat) :
    parseBlock lineSkip (Text.unlines m.lines) = .ok (some (m.diagnostic lineSkip)) := by
  have nonempty := unlines_ne_nil (m.isLine m.first List.mem_cons_self).nonempty m.more
  unfold parseBlock
  rw [message_lines, splitWarning_marked, lineNumber_lines]
  dsimp only
  rw [if_neg fun both => nonempty both.2]
  cases severity : m.severity with
  | warning => simp [diagnostic, severity]
  | error => simp [diagnostic, severity]

theorem lines_ne_nil : m.lines ≠ [] := by
  unfold lines
  dsimp only
  split
  · simp
  · simp

/-- The lines of a message as it is written are lines. -/
theorem lines_isLine : ∀ l ∈ m.lines, IsLine l := by
  have digits : ∀ c ∈ Text.ofNat m.number, c ≠ lineFeed ∧ c ≠ carriageReturn :=
    fun c mem => not_break_of_isDecimal (Text.isDecimal_of_mem_ofNat mem)
  have header : IsLine m.header := by
    refine ⟨by simp [Written.header], ?_, ?_⟩
    · simp only [Written.header, List.mem_append, List.mem_cons, List.not_mem_nil, or_false, not_or]
      exact ⟨m.path_isField.noReturn, by decide, fun mem => (digits _ mem).2 rfl, by decide,
        m.column_isField.noReturn, by decide⟩
    · simp only [Written.header, List.mem_append, List.mem_cons, List.not_mem_nil, or_false, not_or]
      exact ⟨m.path_isField.noFeed, by decide, fun mem => (digits _ mem).1 rfl, by decide,
        m.column_isField.noFeed, by decide⟩
  have text := m.marked_isLine
  unfold lines
  dsimp only
  -- the text starts on a line of its own, or behind the header
  split
  · intro l mem
    rcases List.mem_cons.1 mem with rfl | below
    · exact header
    · obtain ⟨plain, inside, rfl⟩ := List.mem_map.1 below
      exact (text plain inside).indented
  · intro l mem
    rcases List.mem_cons.1 mem with rfl | below
    · have line := text m.marked.1 List.mem_cons_self
      exact line.spaced.behind header.noReturn header.noFeed
    · obtain ⟨plain, inside, rfl⟩ := List.mem_map.1 below
      exact (text plain (List.mem_cons_of_mem _ inside)).indented

end Written

/-! ## Reports -/

theorem documentLines_cons_cons (m next : Written) (rest : List Written) :
    documentLines (m :: next :: rest) = m.lines ++ [] :: documentLines (next :: rest) := rfl

theorem documentLines_ne_nil (m : Written) (more : List Written) :
    documentLines (m :: more) ≠ [] := by
  cases more with
  | nil => exact m.lines_ne_nil
  | cons next rest => simp [documentLines]

/-- A report is cut into its messages. -/
theorem blocks_documentLines (m : Written) (more : List Written) :
    blocks (Text.unlines (documentLines (m :: more))) =
      (m :: more).map fun m => Text.unlines m.lines := by
  have solid : ∀ m : Written, ∀ line ∈ m.lines, line ≠ [] ∧ lineFeed ∉ line :=
    fun m line mem => ⟨(m.lines_isLine line mem).nonempty, (m.lines_isLine line mem).noFeed⟩
  induction more generalizing m with
  | nil =>
      have last : blocks [] = [[]] := rfl
      simpa [documentLines] using blocks_unlines m.lines_ne_nil (solid m) last
  | cons next rest ih =>
      -- the empty line between two messages makes the pair of line feeds that cuts
      have between : Text.unlines (documentLines (m :: next :: rest)) = Text.unlines m.lines ++
          lineFeed :: lineFeed :: Text.unlines (documentLines (next :: rest)) := by
        rw [documentLines_cons_cons, Text.unlines,
          Text.joinWith_append m.lines_ne_nil (List.cons_ne_nil _ _)]
        congr 2
        exact unlines_cons (documentLines_ne_nil next rest) []
      have following := blocks_pair (Text.unlines (documentLines (next :: rest)))
      rw [between, blocks_unlines m.lines_ne_nil (solid m) following, ih next]
      rfl

theorem noReturn_documentLines (ms : List Written) :
    ∀ line ∈ documentLines ms, carriageReturn ∉ line := by
  induction ms with
  | nil => simp [documentLines]
  | cons m more ih =>
      have here : ∀ line ∈ m.lines, carriageReturn ∉ line :=
        fun line mem => (m.lines_isLine line mem).noReturn
      cases more with
      | nil => exact here
      | cons next rest =>
          intro line mem
          simp only [documentLines, List.mem_append, List.mem_cons] at mem
          rcases mem with mine | rfl | later
          · exact here line mine
          · simp
          · exact ih line later

theorem parseBlocks_lines (lineSkip : Nat) (ms : List Written) :
    parseBlocks lineSkip (ms.map fun m => Text.unlines m.lines) =
      .ok (ms.map (Written.diagnostic lineSkip)) := by
  induction ms with
  | nil => rfl
  | cons m more ih =>
      rw [List.map_cons, parseBlocks, m.parseBlock_lines]
      dsimp only
      rw [ih]
      rfl

/-- A report is read as the messages that it was written from, in their order, whichever layout each
of them has and whichever line breaks are used. -/
theorem parse_document (ms : List Written) (breaks : Nat → LineBreak) (lineSkip : Nat) :
    parse lineSkip (document breaks ms) = .ok (ms.map (Written.diagnostic lineSkip)) := by
  rw [parse, document, Text.dropReturns_broken breaks (noReturn_documentLines ms)]
  cases ms with
  | nil =>
      -- the one block of an empty report is no message: its line is not after the first
      have none : parseBlock lineSkip [] = .ok none := by
        have early : (0 : Int) - lineSkip < 1 := by omega
        show (if (0 : Int) - lineSkip < 1 ∧ ([] : Text) = [] then _ else _) = _
        exact if_pos ⟨early, rfl⟩
      show parseBlocks lineSkip [[]] = .ok []
      rw [parseBlocks, none]
      rfl
  | cons m more => rw [blocks_documentLines, parseBlocks_lines]

/-- A warning of two lines below its header. -/
def unusedName : Written where
  severity := .warning
  path := lit "M.hs"
  number := 3
  column := lit "5"
  first := lit "Defined but not used:"
  more := [lit "x"]
  hanging := true
  markAlone := false
  path_isField := ⟨by decide, by decide, by decide⟩
  column_isField := ⟨by decide, by decide, by decide⟩
  short := by decide
  isLine := by
    have first : IsLine (lit "Defined but not used:") := ⟨by decide, by decide, by decide⟩
    have second : IsLine (lit "x") := ⟨by decide, by decide, by decide⟩
    simpa using ⟨first, second⟩
  unmarked := nofun
  flush := nofun

example : document (fun _ => .crlf) [unusedName] =
    lit "M.hs:3:5:\r\n    Warning: Defined but not used:\r\n    x" := by decide

example : unusedName.diagnostic 1 = ⟨.warning, 2, lit "Defined but not used:\nx"⟩ := by decide

end CompileService.Report
