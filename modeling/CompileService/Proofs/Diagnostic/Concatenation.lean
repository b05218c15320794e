import CompileService.Proofs.Diagnostic.Message

/-!
# Reports put together

A report that goes on after a blank line is read as two reports, however many line breaks the one
ends with and the other begins with. Pairs of line feeds are cut from the left, so where one cut is
made depends on all the line feeds before it; but a line feed more or less at either end of a block
makes no difference, and an empty block is no message.

* `parseBlock_lineFeed`, `parseBlock_append_lineFeed`, `parseBlock_nil`: one block.
* `parseBehind`: a report with something before it in its first block. `parseBehind_append`: two of
  them with a pair of line feeds between.
* `parse_append_blank_line`: reports with a blank line between them, and with more than one.
-/

namespace CompileService.Report

open CodePoint

/-! ## Line feeds around a block -/

/-- A block is read from its first colon on. -/
theorem parseBlock_congr {block other : Text} (same : afterColon block = afterColon other)
    (lineSkip : Int) : parseBlock lineSkip block = parseBlock lineSkip other := by
  unfold parseBlock message lineNumber
  rw [same]

/-- A line feed before a block makes no difference. -/
theorem parseBlock_lineFeed (lineSkip : Int) (block : Text) :
    parseBlock lineSkip (lineFeed :: block) = parseBlock lineSkip block := by
  refine parseBlock_congr ?_ lineSkip
  rw [afterColon, if_neg (by decide)]

/-- A line feed at the end adds an empty line, which is dropped. -/
theorem body_lineFeed (rest : Text) : body (rest ++ [lineFeed]) = body rest := by
  have unspaced : (rest ++ [lineFeed]).dropWhile (· = ofChar ' ') =
      rest.dropWhile (· = ofChar ' ') ++ [lineFeed] := by
    have stop : [lineFeed].dropWhile (· = ofChar ' ') = [lineFeed] :=
      List.dropWhile_cons_of_neg (by decide)
    rw [List.dropWhile_append, stop]
    split
    · rename_i blank
      rw [List.isEmpty_iff.1 blank, List.nil_append]
    · rfl
  have another (t : Text) : Text.lines (t ++ [lineFeed]) = Text.lines t ++ [[]] :=
    Text.splitAt_append_cons t []
  unfold body
  rw [unspaced, another, List.map_append, List.filter_append]
  exact congrArg Text.unlines (List.append_nil _)

theorem leadingNumber_lineFeed (t : Text) :
    leadingNumber (t ++ [lineFeed]) = leadingNumber t := by
  have digits : (t ++ [lineFeed]).takeWhile isDigit = t.takeWhile isDigit := by
    have stop : [lineFeed].takeWhile isDigit = [] := List.takeWhile_cons_of_neg (by decide)
    rw [List.takeWhile_append, stop, List.append_nil]
    split
    · rename_i whole
      exact ((List.takeWhile_prefix _).eq_of_length whole).symm
    · rfl
  unfold leadingNumber
  rw [digits]

/-- A line feed at the end of a text stays at the end behind the first colon. Without a colon
nothing stays. -/
theorem afterColon_lineFeed {t u : Text} (h : u = t ∨ u = t ++ [lineFeed]) :
    afterColon u = afterColon t ∨ afterColon u = afterColon t ++ [lineFeed] := by
  rcases h with rfl | rfl
  · exact .inl rfl
  · induction t with
    | nil => exact .inl rfl
    | cons c rest ih =>
        rw [List.cons_append, afterColon, afterColon]
        split
        · exact .inr rfl
        · exact ih

/-- A line feed behind a block makes no difference. -/
theorem parseBlock_append_lineFeed (lineSkip : Int) (block : Text) :
    parseBlock lineSkip (block ++ [lineFeed]) = parseBlock lineSkip block := by
  have behind := afterColon_lineFeed (.inr rfl : block ++ [lineFeed] = block ∨ _)
  have number : lineNumber (block ++ [lineFeed]) = lineNumber block := by
    unfold lineNumber
    rcases behind with same | fed
    · rw [same]
    · rw [fed, leadingNumber_lineFeed]
  have text : message (block ++ [lineFeed]) = message block := by
    rw [message_eq, message_eq]
    rcases afterColon_lineFeed (afterColon_lineFeed behind) with same | fed
    · rw [same]
    · rw [fed, body_lineFeed]
  unfold parseBlock
  rw [number, text]

section
variable (lineSkip : Nat)

/-- An empty block is no message: its line is not after the first. -/
theorem parseBlock_nil : parseBlock lineSkip [] = .ok none := by
  have early : (0 : Int) - lineSkip < 1 := by omega
  exact if_pos ⟨early, rfl⟩

theorem parseBlocks_nil_cons (more : List Text) :
    parseBlocks lineSkip ([] :: more) = parseBlocks lineSkip more := by
  rw [parseBlocks_cons, parseBlock_nil]
  exact both_nil_left _

/-- A line feed before a report makes no difference. -/
theorem parseBlocks_lineFeed (t : Text) :
    parseBlocks lineSkip (blocks (lineFeed :: t)) = parseBlocks lineSkip (blocks t) := by
  induction t with
  | nil =>
      show parseBlocks lineSkip [[lineFeed]] = parseBlocks lineSkip [[]]
      rw [parseBlocks_cons, parseBlocks_cons, parseBlock_lineFeed]
  | cons c rest ih =>
      by_cases feed : c = lineFeed
      · rw [feed, ih, blocks_pair, parseBlocks_nil_cons]
      · obtain ⟨first, more, cut⟩ := List.exists_cons_of_ne_nil (blocks_ne_nil (c :: rest))
        have alone : (c :: rest).head? ≠ some lineFeed := fun h => feed (Option.some.inj h)
        rw [blocks_cons fun _ => alone, cut, List.modifyHead_cons, parseBlocks_cons,
          parseBlocks_cons, parseBlock_lineFeed]

/-! ## Behind the beginning of a block -/

/-- The diagnostics of a text whose first block begins with something else. -/
def parseBehind (front t : Text) : Except LineFault (List Diagnostic) :=
  parseBlocks lineSkip ((blocks t).modifyHead (front ++ ·))

theorem parseBehind_nil (t : Text) :
    parseBehind lineSkip [] t = parseBlocks lineSkip (blocks t) := by
  have same : (blocks t).modifyHead ([] ++ ·) = blocks t := congrFun List.modifyHead_id _
  rw [parseBehind, same]

theorem parseBehind_end (front : Text) :
    parseBehind lineSkip front [] = (parseBlock lineSkip front).map Option.toList := by
  show parseBlocks lineSkip [front ++ []] = _
  rw [parseBlocks_cons, List.append_nil]
  exact both_nil_right _

theorem parseBehind_pair (front t : Text) :
    parseBehind lineSkip front (lineFeed :: lineFeed :: t) =
      both (parseBehind lineSkip front []) (parseBlocks lineSkip (blocks t)) := by
  rw [parseBehind_end, parseBehind, blocks_pair, List.modifyHead_cons, parseBlocks_cons,
    List.append_nil]

theorem parseBehind_single {c : CodePoint} {t : Text}
    (alone : c = lineFeed → t.head? ≠ some lineFeed) (front : Text) :
    parseBehind lineSkip front (c :: t) = parseBehind lineSkip (front ++ [c]) t := by
  have further : (front ++ ·) ∘ (c :: ·) = (front ++ [c] ++ ·) := by
    funext rest
    simp
  rw [parseBehind, parseBehind, blocks_cons alone, List.modifyHead_modifyHead, further]

/-- Two texts with a pair of line feeds between them are read one after the other. The induction is
along the cuts of the first; what was read of the block at hand is in front. -/
theorem parseBehind_append (front t back : Text) :
    parseBehind lineSkip front (t ++ lineFeed :: lineFeed :: back) =
      both (parseBehind lineSkip front t) (parseBlocks lineSkip (blocks back)) := by
  induction t using blocks_induction generalizing front with
  | nil => exact parseBehind_pair lineSkip front back
  | pair t ih =>
      have rest := ih []
      rw [parseBehind_nil, parseBehind_nil] at rest
      rw [List.cons_append, List.cons_append, parseBehind_pair, parseBehind_pair, rest, both_assoc]
  | single c t alone ih =>
      by_cases last : c = lineFeed ∧ t = []
      · -- the cut comes one line feed earlier, and the one that is left begins the second text
        obtain ⟨rfl, rfl⟩ := last
        have closed : parseBehind lineSkip front [lineFeed] = parseBehind lineSkip front [] := by
          rw [parseBehind_single lineSkip alone, parseBehind_end, parseBehind_end,
            parseBlock_append_lineFeed]
        rw [List.singleton_append, parseBehind_pair, parseBlocks_lineFeed, closed]
      · have still : c = lineFeed → (t ++ lineFeed :: lineFeed :: back).head? ≠ some lineFeed := by
          intro feed
          obtain ⟨d, rest, rfl⟩ := List.exists_cons_of_ne_nil fun none => last ⟨feed, none⟩
          exact alone feed
        rw [List.cons_append, parseBehind_single lineSkip still, parseBehind_single lineSkip alone,
          ih]

/-! ## Reports -/

/-- A report that goes on after a blank line is read as two reports. -/
theorem parse_append {front : Text} (whole : front.getLast? ≠ some carriageReturn) (back : Text) :
    parse lineSkip (front ++ lineFeed :: lineFeed :: back) =
      both (parse lineSkip front) (parse lineSkip back) := by
  have apart : Text.dropReturns (front ++ lineFeed :: lineFeed :: back) =
      Text.dropReturns front ++ lineFeed :: lineFeed :: Text.dropReturns back := by
    rw [Text.dropReturns_append_of_apart fun last => absurd last whole,
      Text.dropReturns_cons (by decide), Text.dropReturns_cons (by decide)]
  have read := parseBehind_append lineSkip [] front.dropReturns back.dropReturns
  rw [parseBehind_nil, parseBehind_nil] at read
  rw [parse, apart, read, parse, parse]

/-- Line breaks before a report make no difference. -/
theorem parse_breaks (breaks : List LineBreak) (t : Text) :
    parse lineSkip (breaks.flatMap Text.ofBreak ++ t) = parse lineSkip t := by
  induction breaks with
  | nil => rfl
  | cons first more ih =>
      rw [List.flatMap_cons, List.append_assoc, parse, Text.dropReturns_ofBreak,
        parseBlocks_lineFeed, ← parse, ih]

/-- A report that goes on after a blank line is read as two reports, one after the other, and not at
all if one of them is not; and more line breaks after the blank line make no difference. -/
theorem parse_append_blank_line {front : Text} (whole : front.getLast? ≠ some carriageReturn)
    (back : Text) :
    parse lineSkip (front ++ lineFeed :: lineFeed :: back) =
      both (parse lineSkip front) (parse lineSkip back) ∧
    ∀ surplus : List LineBreak,
      parse lineSkip (front ++ lineFeed :: lineFeed :: (surplus.flatMap Text.ofBreak ++ back)) =
        both (parse lineSkip front) (parse lineSkip back) := by
  refine ⟨parse_append lineSkip whole back, fun surplus => ?_⟩
  rw [parse_append lineSkip whole, parse_breaks]

end

/-- A report that ends with a line break, and one that begins with one: five line feeds in a row, of
which the last stands before the second message. -/
theorem parse_append_blank_line_odd :
    (lit "f:1:2: x\n").getLast? ≠ some carriageReturn ∧
      parse (1 : Nat) (lit "f:1:2: x\n" ++ lineFeed :: lineFeed :: lit "\n\ng:3:4: y") =
        both (parse (1 : Nat) (lit "f:1:2: x\n")) (parse (1 : Nat) (lit "\n\ng:3:4: y")) ∧
      both (parse (1 : Nat) (lit "f:1:2: x\n")) (parse (1 : Nat) (lit "\n\ng:3:4: y")) =
        .ok [⟨.error, 0, lit "x"⟩, ⟨.error, 2, lit "y"⟩] := by
  have whole : (lit "f:1:2: x\n").getLast? ≠ some carriageReturn := by decide
  exact ⟨whole, (parse_append_blank_line 1 whole (lit "\n\ng:3:4: y")).1, by rfl⟩

end CompileService.Report
