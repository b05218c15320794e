import CompileService.Proofs.Diagnostic.Layout
import CompileService.Proofs.Diagnostic.Readable

/-!
# The messages of a report

The text of a message is what stands behind the header of its block, without indents and without
empty lines; the mark of a warning and what separates it from the text are taken off last. So a line
that the mark leaves empty is not dropped any more.

* `body`: what a block shows behind its header. `mem_body`: only spaces and line feeds get lost.
  `noEmptyLine_body`: no line is empty.
* `mem_splitWarning`: what gets lost with the mark of a warning. `noEmptyLine_splitWarning`: where it
  leaves an empty line.
* `noEmptyLine_text_iff`: the reports all of whose texts are without empty lines.
-/

namespace CompileService.Report

open CodePoint

/-! ## Behind the header -/

/-- What `message` makes of the text behind the third colon. -/
def body (rest : Text) : Text :=
  Text.unlines (((Text.lines (rest.dropWhile (· = ofChar ' '))).map dedent).filter (· ≠ []))

theorem message_eq (block : Text) :
    message block = body (afterColon (afterColon (afterColon block))) := rfl

theorem mem_dedent {line : Text} {c : CodePoint} (other : c ≠ space) (mem : c ∈ line) :
    c ∈ dedent line := by
  rcases dedent_cases line with same | indented
  · rwa [same]
  · rw [indented, List.mem_append] at mem
    rcases mem with front | behind
    · have blank : ∀ d ∈ indent, d = space := by decide
      exact absurd (blank c front) other
    · exact behind

theorem feed_not_mem_dedent {line : Text} (free : lineFeed ∉ line) : lineFeed ∉ dedent line := by
  rcases dedent_cases line with same | indented
  · rwa [same]
  · rw [indented, List.mem_append, not_or] at free
    exact free.2

theorem mem_dropWhile {p : CodePoint → Bool} {t : Text} {c : CodePoint} (kept : p c = false)
    (mem : c ∈ t) : c ∈ t.dropWhile p := by
  rw [← List.takeWhile_append_dropWhile (p := p) (l := t), List.mem_append] at mem
  rcases mem with front | behind
  · have passed : p c = true := List.all_eq_true.1 List.all_takeWhile c front
    rw [passed] at kept
    cases kept
  · exact behind

/-- Only spaces and line feeds get lost behind the header. -/
theorem mem_body {rest : Text} {c : CodePoint} (noSpace : c ≠ space) (noFeed : c ≠ lineFeed)
    (mem : c ∈ rest) : c ∈ body rest := by
  have unspaced : c ∈ rest.dropWhile (· = ofChar ' ') :=
    mem_dropWhile (decide_eq_false noSpace) mem
  rw [← Text.joinWith_splitAt lineFeed (rest.dropWhile _)] at unspaced
  rcases Text.mem_joinWith unspaced with feed | ⟨line, among, inside⟩
  · exact absurd feed noFeed
  · have shown := mem_dedent noSpace inside
    refine Text.mem_joinWith_of_mem (List.mem_filter.2 ⟨List.mem_map_of_mem among, ?_⟩) shown
    exact decide_eq_true (List.ne_nil_of_mem shown)

/-- No line of a text is empty, unless the text is. -/
def NoEmptyLine (t : Text) : Prop := t = [] ∨ [] ∉ t.lines

instance (t : Text) : Decidable (NoEmptyLine t) := inferInstanceAs (Decidable (_ ∨ _))

theorem noEmptyLine_unlines {ls : List Text} (solid : ∀ line ∈ ls, line ≠ [] ∧ lineFeed ∉ line) :
    NoEmptyLine (Text.unlines ls) := by
  cases ls with
  | nil => exact .inl rfl
  | cons line others =>
      refine .inr ?_
      rw [lines_unlines fun l mem => (solid l mem).2]
      exact fun empty => (solid [] empty).1 rfl

/-- Empty lines are dropped behind the header. -/
theorem noEmptyLine_body (rest : Text) : NoEmptyLine (body rest) := by
  refine noEmptyLine_unlines fun line mem => ?_
  obtain ⟨among, full⟩ := List.mem_filter.1 mem
  obtain ⟨whole, cut, rfl⟩ := List.mem_map.1 among
  exact ⟨of_decide_eq_true full, feed_not_mem_dedent (Text.not_mem_of_mem_splitAt cut)⟩

/-! ## The mark of a warning -/

/-- Nothing gets lost with the mark but what it is made of and the separator. -/
theorem mem_splitWarning {t : Text} {c : CodePoint} (unmarked : c ∉ warningMark)
    (noSpace : c ≠ space) (noFeed : c ≠ lineFeed) (mem : c ∈ t) : c ∈ (splitWarning t).2 := by
  rcases splitWarning_cases t with same | ⟨rfl, -⟩ | ⟨d, rest, sep, rfl, split⟩
  · rwa [same]
  · exact absurd mem unmarked
  · rw [split]
    rcases List.mem_append.1 mem with mark | behind
    · exact absurd mark unmarked
    rcases List.mem_cons.1 behind with rfl | behind
    · rcases sep with rfl | rfl
      · exact absurd rfl noSpace
      · exact absurd rfl noFeed
    · exact behind

/-- The mark of a warning has a space behind it and then nothing more on its line, though the text
goes on below. -/
def SpaceEndsMark (t : Text) : Prop := warningMark ++ [space, lineFeed] <+: t

instance (t : Text) : Decidable (SpaceEndsMark t) := inferInstanceAs (Decidable (_ <+: t))

/-- Behind the mark and a separator only the first line can be empty. -/
theorem tail_of_marked {c : CodePoint} {rest : Text}
    (full : NoEmptyLine (warningMark ++ c :: rest)) : [] ∉ (Text.lines (c :: rest)).tail := by
  have markFree : lineFeed ∉ warningMark := by decide
  rcases full with none | full
  · cases none
  · rw [Text.lines, ← Text.tail_splitAt_append markFree]
    exact fun empty => full (List.mem_of_mem_tail empty)

/-- A text that begins with something else than a line feed has a first line that is not empty. -/
theorem noEmptyLine_of_tail {t : Text} (start : t.head? ≠ some lineFeed)
    (full : [] ∉ t.lines.tail) : NoEmptyLine t := by
  cases t with
  | nil => exact .inl rfl
  | cons c rest =>
      have other : lineFeed ∉ [c] := fun mem => start (congrArg some (List.mem_singleton.1 mem).symm)
      obtain ⟨first, more, cut⟩ :=
        List.exists_cons_of_ne_nil (Text.splitAt_ne_nil lineFeed rest)
      have lines : Text.lines (c :: rest) = (c :: first) :: more :=
        Text.splitAt_append_left other cut
      rw [lines] at full
      refine .inr ?_
      rw [lines, List.mem_cons, not_or]
      exact ⟨(List.cons_ne_nil c first).symm, full⟩

/-- A text without empty lines has none after the mark is taken off either, unless there is a space
and nothing else behind the mark: then its first line is empty, and no other. -/
theorem noEmptyLine_splitWarning {t : Text} (full : NoEmptyLine t) :
    (¬ SpaceEndsMark t ∧ NoEmptyLine (splitWarning t).2) ∨
      SpaceEndsMark t ∧ ∃ rest : Text, splitWarning t = (true, lineFeed :: rest) ∧
        [] ∉ rest.lines := by
  have behind (rest : Text) : (Text.lines (space :: rest)).tail = rest.lines.tail :=
    Text.tail_splitAt_append (by decide : lineFeed ∉ [space]) rest
  by_cases ends : SpaceEndsMark t
  · refine .inr ⟨ends, ?_⟩
    obtain ⟨rest, rfl⟩ := ends
    have shape : warningMark ++ [space, lineFeed] ++ rest =
        warningMark ++ space :: lineFeed :: rest := by simp
    rw [shape] at full ⊢
    have later := tail_of_marked full
    rw [behind] at later
    exact ⟨rest, splitWarning_mark (.inl rfl) (lineFeed :: rest), later⟩
  · refine .inl ⟨ends, ?_⟩
    rcases splitWarning_cases t with same | ⟨rfl, alone⟩ | ⟨c, rest, sep, rfl, split⟩
    · rwa [same]
    · rw [alone]
      exact .inl rfl
    · rw [split]
      have later := tail_of_marked full
      rcases sep with rfl | rfl
      · -- the first line goes on behind the space
        have start : rest.head? ≠ some lineFeed := by
          intro feed
          obtain ⟨more, rfl⟩ := List.head?_eq_some_iff.1 feed
          exact ends ⟨more, by simp⟩
        rw [behind] at later
        exact noEmptyLine_of_tail start later
      · exact .inr later

/-! ## Blocks and their diagnostics -/

/-- Each block of a report that is read is read by itself. -/
theorem parseBlock_of_mem {lineSkip : Int} {bs : List Text} {found : List Diagnostic}
    (parsed : parseBlocks lineSkip bs = .ok found) {block : Text} (mem : block ∈ bs) :
    parseBlock lineSkip block = .ok none ∨
      ∃ d ∈ found, parseBlock lineSkip block = .ok (some d) := by
  obtain ⟨one, read⟩ := (parseBlock_ok_iff lineSkip block).2
    ((parseBlocks_ok_iff lineSkip bs).1 ⟨found, parsed⟩ block mem)
  cases one with
  | none => exact .inl read
  | some d => exact .inr ⟨d, (mem_parseBlocks_iff parsed).2 ⟨block, mem, read⟩, read⟩

/-! ## The texts of a report -/

/-- The text of a diagnostic has no empty lines, unless it is a warning's and the mark stood on a
line of its own with one space behind it: then there is one, and it is the first. So no text of a
report has empty lines exactly if no block has its mark in that way. -/
theorem noEmptyLine_text_iff {lineSkip : Int} {raw : Text} {found : List Diagnostic}
    (parsed : parse lineSkip raw = .ok found) :
    (∀ d ∈ found, NoEmptyLine d.text ∨
      d.severity = .warning ∧ ∃ rest : Text, d.text = lineFeed :: rest ∧ [] ∉ rest.lines) ∧
    ((∀ d ∈ found, NoEmptyLine d.text) ↔
      ∀ block ∈ blocks raw.dropReturns, ¬ SpaceEndsMark (message block)) := by
  have each (block : Text) := noEmptyLine_splitWarning (noEmptyLine_body
    (afterColon (afterColon (afterColon block))))
  refine ⟨fun d mem => ?_, fun full block mem ends => ?_, fun none d mem => ?_⟩
  · -- an empty line of a text comes from the mark of its block
    obtain ⟨block, -, read⟩ := (mem_parseBlocks_iff parsed).1 mem
    obtain ⟨n, -, -, rfl⟩ := parseBlock_some_iff.1 read
    rcases each block with ⟨-, full⟩ | ⟨-, rest, split, full⟩
    · exact .inl full
    · refine .inr ⟨?_, rest, ?_, full⟩
      · rw [message_eq, split]
        rfl
      · rw [message_eq, split]
  · rcases each block with ⟨other, -⟩ | ⟨-, rest, split, -⟩
    · exact other ends
    -- the text begins with an empty line and is not noise, so it is the text of a diagnostic
    rw [← message_eq] at split
    rcases parseBlock_of_mem parsed mem with noise | ⟨d, found, read⟩
    · obtain ⟨n, -, -, silent⟩ := parseBlock_none_iff.1 noise
      rw [split] at silent
      cases silent
    · obtain ⟨n, -, -, rfl⟩ := parseBlock_some_iff.1 read
      have text := full _ found
      rw [split] at text
      rcases text with none | text
      · cases none
      · exact text List.mem_cons_self
  · obtain ⟨block, among, read⟩ := (mem_parseBlocks_iff parsed).1 mem
    obtain ⟨n, -, -, rfl⟩ := parseBlock_some_iff.1 read
    rcases each block with ⟨-, full⟩ | ⟨ends, -⟩
    · exact full
    · exact absurd ends (none block among)

/-- Two warnings whose marks stand in front of a line feed, and of a space and a text. -/
theorem noEmptyLine_text_iff_warnings :
    parse 0 (lit "f:1:2: Warning:\n    x\n\nf:3:4: Warning: y\n    z") =
        .ok [⟨.warning, 1, lit "x"⟩, ⟨.warning, 3, lit "y\nz"⟩] ∧
      ∀ d ∈ [Diagnostic.mk .warning 1 (lit "x"), ⟨.warning, 3, lit "y\nz"⟩],
        NoEmptyLine d.text := by
  have parsed : parse 0 (lit "f:1:2: Warning:\n    x\n\nf:3:4: Warning: y\n    z") =
      .ok [⟨.warning, 1, lit "x"⟩, ⟨.warning, 3, lit "y\nz"⟩] := by rfl
  refine ⟨parsed, (noEmptyLine_text_iff parsed).2.2 ?_⟩
  decide

/-- A mark with a space behind it leaves its line empty, and the line stays. -/
theorem space_behind_mark_leaves_empty_line :
    parse 0 (lit "f.hs:1:2: Warning: \n    foo") = .ok [⟨.warning, 1, lit "\nfoo"⟩] ∧
      ¬ NoEmptyLine (lit "\nfoo") := by
  refine ⟨rfl, ?_⟩
  decide

end CompileService.Report
