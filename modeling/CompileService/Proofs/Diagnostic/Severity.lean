import CompileService.Proofs.Diagnostic.Message

/-!
# Errors and warnings

Whether a block is an error or a warning is read off the text behind its header: it is a warning if
this begins with the mark and the mark ends there, and otherwise an error with just this text. Which
text it is depends on the blanks that the line of the header loses behind the column. The parser
takes spaces off and keeps tabs, so a tab there stays in the text and hides a mark behind it.

* `shownText`: the text behind a header, for blanks of any kind. `body_eq`: the parser's.
* `SaysWarning`, `ClassifiedBy`: a diagnostic that has its severity and its text from a text.
* `classified_message`: every diagnostic is classified by the text without spaces.
* `classified_iff_no_tab`: and by the text without spaces and tabs just if there is no tab to drop.
-/

namespace CompileService.Report

open CodePoint

/-- A tab. -/
def tab : CodePoint := '\t'

/-- A space or a tab. -/
def isSpaceOrTab (c : CodePoint) : Bool := c = space ∨ c = tab

/-- The text behind a header: without the blanks in front of what the line of the header goes on
with, without one indent on each line below, and without empty lines. -/
def shownText (blank : CodePoint → Bool) (rest : Text) : Text :=
  match Text.lines rest with
  | [] => []
  | header :: below =>
    Text.unlines ((header.dropWhile blank :: below.map dedent).filter (· ≠ []))

/-- A text begins with the mark of a warning, and the mark ends there: a space or a line feed follows
it, or nothing. -/
def SaysWarning (t : Text) : Prop :=
  t = warningMark ∨ warningMark ++ [space] <+: t ∨ warningMark ++ [lineFeed] <+: t

instance (t : Text) : Decidable (SaysWarning t) := inferInstanceAs (Decidable (_ ∨ _ ∨ _))

/-- A diagnostic is a warning if a text says so, and otherwise an error with this text. -/
structure ClassifiedBy (t : Text) (d : Diagnostic) : Prop where
  warning_iff : d.severity = .warning ↔ SaysWarning t
  error : ¬ SaysWarning t → d.severity = .error ∧ d.text = t

/-! ## The line of the header -/

section
variable {p q : CodePoint → Bool} {t header : Text} {below : List Text}

/-- What is dropped in front of a text is on its first line, if no line feeds are dropped. -/
theorem front_of_lines (kept : p lineFeed = false) (cut : Text.lines t = header :: below) :
    t.takeWhile p = header.takeWhile p ∧
      Text.lines (t.dropWhile p) = header.dropWhile p :: below := by
  induction t generalizing header with
  | nil =>
      obtain ⟨rfl, rfl⟩ := List.cons.inj cut
      exact ⟨rfl, rfl⟩
  | cons c rest ih =>
      obtain ⟨first, more, behind⟩ := List.exists_cons_of_ne_nil (Text.splitAt_ne_nil lineFeed rest)
      by_cases feed : c = lineFeed
      · -- the first line ends at once
        have whole : Text.lines (c :: rest) = [] :: Text.lines rest := if_pos feed
        obtain ⟨rfl, rfl⟩ := List.cons.inj (whole.symm.trans cut)
        have stays : p c = false := feed ▸ kept
        simpa [stays] using whole
      · have whole : Text.lines (c :: rest) = (c :: first) :: more := by
          rw [Text.lines, Text.splitAt, if_neg feed, behind]
        obtain ⟨rfl, rfl⟩ := List.cons.inj (whole.symm.trans cut)
        cases dropped : p c with
        | true => simpa [dropped] using ih behind
        | false => simpa [dropped] using whole

/-- Where one kind of blanks meets no others in front, it is as good as a larger kind. -/
theorem dropWhile_congr_of_front (larger : ∀ c, p c = true → q c = true)
    (front : ∀ c ∈ t.takeWhile q, p c = true) : t.dropWhile q = t.dropWhile p := by
  induction t with
  | nil => rfl
  | cons c rest ih =>
      cases more : q c with
      | true =>
          rw [List.takeWhile_cons_of_pos more] at front
          obtain ⟨here, others⟩ := List.forall_mem_cons.1 front
          rw [List.dropWhile_cons_of_pos more, List.dropWhile_cons_of_pos here, ih others]
      | false =>
          have stays : ¬ p c = true := fun less => by simp [larger c less] at more
          rw [List.dropWhile_cons_of_neg (by simp [more]), List.dropWhile_cons_of_neg stays]

end

theorem shownText_of_lines {blank : CodePoint → Bool} {rest header : Text} {below : List Text}
    (cut : Text.lines rest = header :: below) :
    shownText blank rest =
      Text.unlines ((header.dropWhile blank :: below.map dedent).filter (· ≠ [])) := by
  rw [shownText, cut]

/-- What the parser makes of the text behind the third colon: it drops spaces. -/
theorem body_eq (rest : Text) : body rest = shownText (· = space) rest := by
  obtain ⟨header, below, cut⟩ :=
    List.exists_cons_of_ne_nil (Text.splitAt_ne_nil lineFeed rest)
  have unspaced := (front_of_lines (p := (· = space)) (by decide) cut).2
  -- without its spaces the line of the header has no indent to lose
  have flush : (header.dropWhile (· = space)).head? ≠ some space := by
    intro spaced
    have first := List.head?_dropWhile_not (fun c => decide (c = space)) header
    rw [spaced] at first
    simp at first
  have same : body rest = Text.unlines
      (((Text.lines (rest.dropWhile (· = space))).map dedent).filter (· ≠ [])) := rfl
  rw [shownText_of_lines cut, same, unspaced, List.map_cons, dedent_of_flush flush]

/-! ## Classification -/

/-- The mark is found just where a text says that it is a warning. -/
theorem splitWarning_of_silent {t : Text} (silent : ¬ SaysWarning t) :
    splitWarning t = (false, t) := by
  rcases splitWarning_cases t with same | ⟨alone, -⟩ | ⟨c, rest, sep, whole, -⟩
  · exact same
  · exact absurd (.inl alone) silent
  · have begins : warningMark ++ [c] <+: t := ⟨rest, by simp [whole]⟩
    rcases sep with rfl | rfl
    · exact absurd (.inr (.inl begins)) silent
    · exact absurd (.inr (.inr begins)) silent

theorem splitWarning_of_warns {t : Text} (warns : SaysWarning t) : (splitWarning t).1 = true := by
  rcases warns with rfl | ⟨rest, rfl⟩ | ⟨rest, rfl⟩
  · rfl
  · rw [List.append_assoc, List.singleton_append, splitWarning_mark (.inl rfl)]
  · rw [List.append_assoc, List.singleton_append, splitWarning_mark (.inr rfl)]

/-- Every diagnostic is classified by the message of its block. -/
theorem classified_message {lineSkip : Int} {block : Text} {d : Diagnostic}
    (read : parseBlock lineSkip block = .ok (some d)) : ClassifiedBy (message block) d := by
  obtain ⟨n, -, -, rfl⟩ := parseBlock_some_iff.1 read
  by_cases warns : SaysWarning (message block)
  · have marked := splitWarning_of_warns warns
    exact ⟨by simp [marked, warns], fun silent => absurd warns silent⟩
  · have plain := splitWarning_of_silent warns
    exact ⟨by simp [plain, warns], fun _ => by simp [plain]⟩

/-- A block with three colons has the fields of a header. -/
theorem exists_fields {block : Text} (colons : 3 ≤ block.count colon) :
    ∃ path line column rest, colon ∉ path ∧ colon ∉ line ∧ colon ∉ column ∧
      block = path ++ colon :: (line ++ colon :: (column ++ colon :: rest)) := by
  have field {t : Text} {n : Nat} (more : n + 1 ≤ t.count colon) :
      ∃ front rest, colon ∉ front ∧ t = front ++ colon :: rest ∧ n ≤ rest.count colon := by
    obtain ⟨front, rest, rfl, free⟩ :=
      List.eq_append_cons_of_mem (List.count_pos_iff.1 (Nat.lt_of_lt_of_le n.succ_pos more))
    refine ⟨front, rest, free, rfl, ?_⟩
    rw [List.count_append, List.count_eq_zero_of_not_mem free, List.count_cons_self] at more
    omega
  obtain ⟨path, first, noPath, rfl, two⟩ := field colons
  obtain ⟨line, second, noLine, rfl, one⟩ := field two
  obtain ⟨column, rest, noColumn, rfl, -⟩ := field one
  exact ⟨path, line, column, rest, noPath, noLine, noColumn, rfl⟩

/-! ## Tabs -/

/-- What stands in front of the first line of a text comes first in it, however many lines get
lost. -/
theorem unlines_filter_append {front : Text} (full : front ≠ []) (line : Text)
    (others : List Text) :
    ∃ between, Text.unlines (((front ++ line) :: others).filter (· ≠ [])) =
      front ++ between ++ Text.unlines ((line :: others).filter (· ≠ [])) := by
  rw [List.filter_cons_of_pos (by simp [full])]
  cases line with
  | cons c more =>
      refine ⟨[], ?_⟩
      rw [List.filter_cons_of_pos (by simp), unlines_append_left, List.append_nil]
  | nil =>
      rw [List.filter_cons_of_neg (by simp), List.append_nil]
      cases rest : others.filter (· ≠ []) with
      | nil => exact ⟨[], by simp [Text.unlines, Text.joinWith]⟩
      | cons next later =>
          refine ⟨[lineFeed], ?_⟩
          rw [unlines_cons (List.cons_ne_nil next later)]
          simp

/-- A tab among the blanks behind the header stays, and all that would be shown without it comes
later. -/
theorem shownText_of_tab {rest : Text} (behind : tab ∈ rest.takeWhile isSpaceOrTab) :
    ∃ more, shownText (· = space) rest = tab :: more ++ shownText isSpaceOrTab rest := by
  obtain ⟨header, below, cut⟩ :=
    List.exists_cons_of_ne_nil (Text.splitAt_ne_nil lineFeed rest)
  rw [(front_of_lines (by decide) cut).1] at behind
  obtain ⟨spaces, blanks, front, noTab⟩ := List.eq_append_cons_of_mem behind
  have spaced : ∀ c ∈ spaces, c = space := by
    intro c mem
    have blank : isSpaceOrTab c = true :=
      List.all_eq_true.1 List.all_takeWhile c (front ▸ List.mem_append_left _ mem)
    rcases of_decide_eq_true blank with isSpace | rfl
    · exact isSpace
    · exact absurd mem noTab
  have dropped : header.dropWhile (· = space) =
      (tab :: blanks) ++ header.dropWhile isSpaceOrTab := by
    have parts := List.takeWhile_append_dropWhile (p := isSpaceOrTab) (l := header)
    rw [front, List.append_assoc] at parts
    rw [← parts, List.dropWhile_append_of_pos fun c mem => by simp [spaced c mem], parts]
    exact List.dropWhile_cons_of_neg (by decide)
  obtain ⟨between, shown⟩ := unlines_filter_append (List.cons_ne_nil tab blanks)
    (header.dropWhile isSpaceOrTab) (below.map dedent)
  refine ⟨blanks ++ between, ?_⟩
  rw [shownText_of_lines cut, shownText_of_lines cut, dropped, shown]
  simp

/-- With a tab among the blanks the text is an error's that begins with the tab, so it is not the text
without the blanks. -/
theorem ClassifiedBy.not_of_tab {rest : Text} {d : Diagnostic}
    (classified : ClassifiedBy (shownText (· = space) rest) d)
    (behind : tab ∈ rest.takeWhile isSpaceOrTab) : ¬ ClassifiedBy (shownText isSpaceOrTab rest) d := by
  intro other
  obtain ⟨more, shown⟩ := shownText_of_tab behind
  have unmarked : ¬ SaysWarning (shownText (· = space) rest) := by
    rw [shown]
    rintro (alone | ⟨tail, begins⟩ | ⟨tail, begins⟩)
    · exact absurd (List.cons.inj alone).1 (by decide)
    · exact absurd (List.cons.inj begins).1 (by decide)
    · exact absurd (List.cons.inj begins).1 (by decide)
  obtain ⟨isError, text⟩ := classified.error unmarked
  have silent : ¬ SaysWarning (shownText isSpaceOrTab rest) := by
    rw [← other.warning_iff, isError]
    simp
  have same : shownText (· = space) rest = shownText isSpaceOrTab rest :=
    text.symm.trans (other.error silent).2
  have lengths := congrArg List.length (shown.symm.trans same)
  rw [List.length_append, List.length_cons] at lengths
  omega

/-- Without a tab among the blanks only spaces are dropped. -/
theorem shownText_of_noTab {rest : Text} (noTab : tab ∉ rest.takeWhile isSpaceOrTab) :
    shownText isSpaceOrTab rest = shownText (· = space) rest := by
  have spaces : ∀ c ∈ rest.takeWhile isSpaceOrTab, decide (c = space) = true := by
    intro c mem
    have blank : isSpaceOrTab c = true := List.all_eq_true.1 List.all_takeWhile c mem
    rcases of_decide_eq_true blank with isSpace | rfl
    · exact decide_eq_true isSpace
    · exact absurd mem noTab
  obtain ⟨header, below, cut⟩ :=
    List.exists_cons_of_ne_nil (Text.splitAt_ne_nil lineFeed rest)
  rw [(front_of_lines (by decide) cut).1] at spaces
  have larger (c : CodePoint) (isSpace : decide (c = space) = true) : isSpaceOrTab c = true :=
    decide_eq_true (.inl (of_decide_eq_true isSpace))
  rw [shownText_of_lines cut, shownText_of_lines cut, dropWhile_congr_of_front larger spaces]

/-- In a block with the fields of a header a diagnostic is classified by the text behind them without
the spaces in front; and by the text without spaces and tabs exactly if no tab is among the blanks. -/
theorem classified_iff_no_tab {lineSkip : Int} {block : Text} {d : Diagnostic}
    (colons : 3 ≤ block.count colon) (read : parseBlock lineSkip block = .ok (some d)) :
    ∃ path line column rest, (colon ∉ path ∧ colon ∉ line ∧ colon ∉ column) ∧
      block = path ++ colon :: (line ++ colon :: (column ++ colon :: rest)) ∧
      ClassifiedBy (shownText (· = space) rest) d ∧
      (ClassifiedBy (shownText isSpaceOrTab rest) d ↔ tab ∉ rest.takeWhile isSpaceOrTab) := by
  obtain ⟨path, line, column, rest, noPath, noLine, noColumn, rfl⟩ := exists_fields colons
  have classified := classified_message read
  rw [message_eq, afterColon_append noPath, afterColon_append noLine, afterColon_append noColumn,
    body_eq] at classified
  refine ⟨path, line, column, rest, ⟨noPath, noLine, noColumn⟩, rfl, classified,
    fun other behind => classified.not_of_tab behind other, fun noTab => ?_⟩
  rwa [shownText_of_noTab noTab]

/-- A warning whose mark stands behind two spaces, and whose text goes on below. -/
theorem classified_iff_no_tab_warning :
    3 ≤ (lit "f.hs:1:2:  Warning: x\n    y").count colon ∧
    parseBlock 0 (lit "f.hs:1:2:  Warning: x\n    y") =
      .ok (some ⟨.warning, 1, lit "x\ny"⟩) ∧
    ∃ path line column rest, (colon ∉ path ∧ colon ∉ line ∧ colon ∉ column) ∧
      lit "f.hs:1:2:  Warning: x\n    y" =
        path ++ colon :: (line ++ colon :: (column ++ colon :: rest)) ∧
      ClassifiedBy (shownText (· = space) rest) ⟨.warning, 1, lit "x\ny"⟩ ∧
      (ClassifiedBy (shownText isSpaceOrTab rest) ⟨.warning, 1, lit "x\ny"⟩ ↔
        tab ∉ rest.takeWhile isSpaceOrTab) := by
  have colons : 3 ≤ (lit "f.hs:1:2:  Warning: x\n    y").count colon := by decide
  have read : parseBlock 0 (lit "f.hs:1:2:  Warning: x\n    y") =
      .ok (some ⟨.warning, 1, lit "x\ny"⟩) := rfl
  exact ⟨colons, read, classified_iff_no_tab colons read⟩

/-- A tab in front of the mark makes a warning an error, and it stays in the text of an error. -/
theorem tab_hides_mark :
    lit "f.hs:1:2:\tWarning: x" =
        lit "f.hs" ++ colon :: (lit "1" ++ colon :: (lit "2" ++ colon :: lit "\tWarning: x")) ∧
      parseBlock 0 (lit "f.hs:1:2:\tWarning: x") = .ok (some ⟨.error, 1, lit "\tWarning: x"⟩) ∧
      SaysWarning (shownText isSpaceOrTab (lit "\tWarning: x")) ∧
      ¬ ClassifiedBy (shownText isSpaceOrTab (lit "\tWarning: x"))
        ⟨.error, 1, lit "\tWarning: x"⟩ := by
  have warns : SaysWarning (shownText isSpaceOrTab (lit "\tWarning: x")) := by decide
  refine ⟨rfl, rfl, warns, fun classified => ?_⟩
  cases classified.warning_iff.2 warns

end CompileService.Report
