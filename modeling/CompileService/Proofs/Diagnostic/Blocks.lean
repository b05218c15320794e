import CompileService.Diagnostic.Report
import CompileService.Proofs.Text.Breaks

/-!
# The blocks of a report

A report is cut where one line feed follows another. So lines that are not empty stay together, and
an empty line between them cuts. The blocks are read one after the other.

* `blocks_induction`: induction along the cuts. `blocks_cons`, `blocks_append_left`: what goes into
  the first block.
* `blocks_unlines`: lines and what follows them. `exists_block_of_infix`: what holds no line feed
  stands in one block.
* `parseBlock_some_iff`, `parseBlock_none_iff`: blocks with a diagnostic and without.
* `both`, `parseBlocks_cons`: two readings one after the other. `mem_parseBlocks_iff`: what is found.
-/

namespace CompileService.Report

open CodePoint

/-! ## Cuts -/

theorem blocks_ne_nil (t : Text) : blocks t ≠ [] := by
  unfold blocks
  split
  · simp
  · simp
  · split
    · simp
    · split
      · simp
      · simp

/-- Induction along the cuts of a text: its pairs of line feeds, and what stands outside of them. -/
@[elab_as_elim]
theorem blocks_induction {motive : Text → Prop} (nil : motive [])
    (pair : ∀ t, motive t → motive (lineFeed :: lineFeed :: t))
    (single : ∀ c t, (c = lineFeed → t.head? ≠ some lineFeed) → motive t → motive (c :: t))
    (t : Text) : motive t := by
  induction t using blocks.induct with
  | case1 => exact nil
  | case2 c => exact single c [] (fun _ => nofun) nil
  | case3 c d rest both ih =>
      obtain ⟨rfl, rfl⟩ := both
      exact pair rest ih
  | case4 c d rest other _ ih =>
      exact single c _ (fun feed next => other ⟨feed, Option.some.inj next⟩) ih
  | case5 c d rest other _ _ _ ih =>
      exact single c _ (fun feed next => other ⟨feed, Option.some.inj next⟩) ih

/-- Two line feeds cut. -/
theorem blocks_pair (rest : Text) : blocks (lineFeed :: lineFeed :: rest) = [] :: blocks rest := by
  simp [blocks]

/-- A code point goes into the first block, unless it is the first of a pair of line feeds. -/
theorem blocks_cons {c : CodePoint} {t : Text} (single : c = lineFeed → t.head? ≠ some lineFeed) :
    blocks (c :: t) = (blocks t).modifyHead (c :: ·) := by
  cases t with
  | nil => rfl
  | cons d rest =>
      have other : ¬ (c = lineFeed ∧ d = lineFeed) :=
        fun both => single both.1 (congrArg some both.2)
      obtain ⟨first, more, cut⟩ := List.exists_cons_of_ne_nil (blocks_ne_nil (d :: rest))
      rw [blocks, if_neg other, cut]
      rfl

/-- What stands before the first line feed is put in front of the first block. -/
theorem blocks_append_left {front : Text} (free : lineFeed ∉ front) (t : Text) :
    blocks (front ++ t) = (blocks t).modifyHead (front ++ ·) := by
  induction front with
  | nil => exact (congrFun List.modifyHead_id _).symm
  | cons c tail ih =>
      simp only [List.mem_cons, not_or] at free
      rw [List.cons_append, blocks_cons fun feed => absurd feed.symm free.1, ih free.2,
        List.modifyHead_modifyHead]
      rfl

/-- Lines that are not empty are one block, up to where the next begins. -/
theorem blocks_unlines {ls : List Text} (nonempty : ls ≠ [])
    (solid : ∀ line ∈ ls, line ≠ [] ∧ lineFeed ∉ line) {t : Text} {more : List Text}
    (h : blocks t = [] :: more) : blocks (Text.unlines ls ++ t) = Text.unlines ls :: more := by
  induction ls with
  | nil => exact absurd rfl nonempty
  | cons line rest ih =>
      have free := (solid line List.mem_cons_self).2
      cases rest with
      | nil =>
          show blocks (line ++ t) = line :: more
          rw [blocks_append_left free, h, List.modifyHead_cons, List.append_nil]
      | cons next others =>
          have later := ih (List.cons_ne_nil next others) fun other mem =>
            solid other (List.mem_cons_of_mem _ mem)
          obtain ⟨full, nextFree⟩ := solid next (by simp)
          -- the next line begins with something, so the line feed before it does not cut
          obtain ⟨d, tail, rfl⟩ := List.exists_cons_of_ne_nil full
          have start : (Text.unlines ((d :: tail) :: others) ++ t).head? ≠ some lineFeed := by
            have front : (Text.unlines ((d :: tail) :: others) ++ t).head? = some d := by
              cases others <;> rfl
            rw [front]
            rintro same
            exact nextFree (Option.some.inj same ▸ List.mem_cons_self)
          have joined : Text.unlines (line :: (d :: tail) :: others) ++ t =
              line ++ lineFeed :: (Text.unlines ((d :: tail) :: others) ++ t) := by
            simp [Text.unlines, Text.joinWith_cons_cons]
          rw [joined, blocks_append_left free, blocks_cons fun _ => start, later]
          simp [Text.unlines, Text.joinWith_cons_cons]

/-- A part of a text without line feeds stands in one of the blocks. -/
theorem exists_block_of_infix {part t : Text} (free : lineFeed ∉ part) (h : part <:+: t) :
    ∃ block ∈ blocks t, part <:+: block := by
  -- at the front of the text it is at the front of the first block
  have front : ∀ {t : Text}, part <+: t → ∃ block ∈ blocks t, part <:+: block := by
    rintro _ ⟨rest, rfl⟩
    obtain ⟨first, more, cut⟩ := List.exists_cons_of_ne_nil (blocks_ne_nil rest)
    refine ⟨part ++ first, ?_, [], first, rfl⟩
    rw [blocks_append_left free, cut]
    exact List.mem_cons_self
  induction t using blocks_induction with
  | nil => exact front (by simpa using h)
  | pair t ih =>
      rcases List.infix_cons_iff.1 h with here | h
      · exact front here
      rcases List.infix_cons_iff.1 h with here | later
      · rcases List.prefix_cons_iff.1 here with rfl | ⟨tail, rfl, -⟩
        · exact front List.nil_prefix
        · exact absurd List.mem_cons_self free
      · obtain ⟨block, mem, inside⟩ := ih later
        rw [blocks_pair]
        exact ⟨block, List.mem_cons_of_mem _ mem, inside⟩
  | single c t alone ih =>
      rcases List.infix_cons_iff.1 h with here | later
      · exact front here
      · obtain ⟨first, more, cut⟩ := List.exists_cons_of_ne_nil (blocks_ne_nil t)
        obtain ⟨block, mem, inside⟩ := ih later
        rw [cut] at mem
        rw [blocks_cons alone, cut, List.modifyHead_cons]
        rcases List.mem_cons.1 mem with rfl | behind
        · exact ⟨c :: block, List.mem_cons_self, List.infix_cons inside⟩
        · exact ⟨block, List.mem_cons_of_mem _ behind, inside⟩

/-! ## Readings -/

/-- What two readings find, one after the other. A fault in either is one of both. -/
def both (first second : Except LineFault (List Diagnostic)) :
    Except LineFault (List Diagnostic) := do
  let found ← first
  let more ← second
  return found ++ more

@[simp]
theorem both_error (fault : LineFault) (second : Except LineFault (List Diagnostic)) :
    both (.error fault) second = .error fault := rfl

@[simp]
theorem both_ok_error (found : List Diagnostic) (fault : LineFault) :
    both (.ok found) (.error fault) = .error fault := rfl

@[simp]
theorem both_ok_ok (found more : List Diagnostic) :
    both (.ok found) (.ok more) = .ok (found ++ more) := rfl

theorem both_nil_left (second : Except LineFault (List Diagnostic)) :
    both (.ok []) second = second := by
  cases second <;> rfl

theorem both_nil_right (first : Except LineFault (List Diagnostic)) :
    both first (.ok []) = first := by
  cases first with
  | error fault => rfl
  | ok found => exact congrArg Except.ok (List.append_nil found)

theorem both_assoc (first second third : Except LineFault (List Diagnostic)) :
    both (both first second) third = both first (both second third) := by
  rcases first with fault | found
  · rfl
  rcases second with fault | more
  · rfl
  rcases third with fault | rest
  · rfl
  exact congrArg Except.ok (List.append_assoc found more rest)

/-- What is done to the diagnostics of both is done to those of each. -/
theorem map_both {f : List Diagnostic → List Diagnostic} (splits : ∀ x y, f (x ++ y) = f x ++ f y)
    (first second : Except LineFault (List Diagnostic)) :
    (both first second).map f = both (first.map f) (second.map f) := by
  rcases first with fault | found
  · rfl
  rcases second with fault | more
  · rfl
  exact congrArg Except.ok (splits found more)

theorem both_eq_ok_iff {first second : Except LineFault (List Diagnostic)}
    {found : List Diagnostic} :
    both first second = .ok found ↔
      ∃ here later, first = .ok here ∧ second = .ok later ∧ here ++ later = found := by
  rcases first with fault | here
  · simp
  rcases second with fault | later
  · simp
  simp

section
variable {lineSkip : Int} {block : Text}

/-- A block is a diagnostic with its own line and text, unless it comes before the first line and
has no text. -/
theorem parseBlock_some_iff {d : Diagnostic} :
    parseBlock lineSkip block = .ok (some d) ↔
      ∃ n : Nat, lineNumber block = .ok n ∧
        ¬ ((n : Int) - lineSkip < 1 ∧ (splitWarning (message block)).2 = []) ∧
        ⟨if (splitWarning (message block)).1 then .warning else .error, n - lineSkip,
          (splitWarning (message block)).2⟩ = d := by
  unfold parseBlock
  cases lineNumber block with
  | error fault => simp
  | ok n =>
      dsimp only
      by_cases noise : (n : Int) - lineSkip < 1 ∧ (splitWarning (message block)).2 = []
      · rw [if_pos noise]
        refine ⟨nofun, ?_⟩
        rintro ⟨_, same, kept, -⟩
        cases same
        exact absurd noise kept
      · rw [if_neg noise]
        refine ⟨fun same => ⟨n, rfl, noise, Option.some.inj (Except.ok.inj same)⟩, ?_⟩
        rintro ⟨_, same, -, rfl⟩
        cases same
        rfl

theorem parseBlock_none_iff :
    parseBlock lineSkip block = .ok none ↔
      ∃ n : Nat, lineNumber block = .ok n ∧
        (n : Int) - lineSkip < 1 ∧ (splitWarning (message block)).2 = [] := by
  unfold parseBlock
  cases lineNumber block with
  | error fault => simp
  | ok n =>
      dsimp only
      split
      · rename_i noise
        simpa using noise
      · rename_i kept
        simpa using kept

end

theorem parseBlocks_cons (lineSkip : Int) (block : Text) (more : List Text) :
    parseBlocks lineSkip (block :: more) =
      both ((parseBlock lineSkip block).map Option.toList) (parseBlocks lineSkip more) := by
  rw [parseBlocks]
  cases parseBlock lineSkip block with
  | error fault => rfl
  | ok found =>
      cases parseBlocks lineSkip more with
      | error fault => rfl
      | ok rest => rfl

/-- The diagnostics that are found are those of the blocks. -/
theorem mem_parseBlocks_iff {lineSkip : Int} {bs : List Text} {found : List Diagnostic}
    (parsed : parseBlocks lineSkip bs = .ok found) {d : Diagnostic} :
    d ∈ found ↔ ∃ block ∈ bs, parseBlock lineSkip block = .ok (some d) := by
  induction bs generalizing found with
  | nil =>
      cases parsed
      simp
  | cons block more ih =>
      rw [parseBlocks_cons, both_eq_ok_iff] at parsed
      obtain ⟨here, later, read, rest, rfl⟩ := parsed
      rcases first : parseBlock lineSkip block with fault | one
      · rw [first] at read
        cases read
      · rw [first] at read
        cases read
        simp [ih rest, first]

end CompileService.Report
