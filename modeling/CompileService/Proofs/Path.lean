import CompileService.Path
import CompileService.Proofs.Text.Split

/-!
# Reading and writing paths

* `FilePath.WellFormed`: a path as reading gives it; writing it and reading it again gives it back
  (`ofText_toText`).
* `FilePath.join_name`: joining a single name adds it to the parts.
* `FilePath.partsOf_append_slash`, `FilePath.allParts_ofText`: the parts of a path below another, and
  what stands in front of them.
-/

namespace CompileService.FilePath

/-- A text that can be a part of a path. -/
structure IsPart (part : Text) : Prop where
  nonempty : part ≠ []
  notHere : part ≠ here
  noSlash : slash ∉ part

/-- A path whose parts are parts. -/
def WellFormed (p : FilePath) : Prop := ∀ part ∈ p.parts, IsPart part

theorem isPart_of_mem_partsOf {t part : Text} (h : part ∈ partsOf t) : IsPart part := by
  simp only [partsOf, List.mem_filter, decide_eq_true_eq] at h
  exact ⟨h.2.1, h.2.2, Text.not_mem_of_mem_splitAt h.1⟩

theorem wellFormed_ofText (t : Text) : (ofText t).WellFormed := fun _ h => isPart_of_mem_partsOf h

theorem WellFormed.join {p : FilePath} (h : p.WellFormed) (t : Text) : (p.join t).WellFormed := by
  unfold FilePath.join
  split
  · intro part mem
    rcases List.mem_append.1 mem with before | after
    · exact h part before
    · exact isPart_of_mem_partsOf after
  · exact wellFormed_ofText t

/-- Parts that are joined with slashes are read again. -/
theorem partsOf_joinWith {parts : List Text} (h : ∀ part ∈ parts, IsPart part) :
    partsOf (Text.joinWith [slash] parts) = parts := by
  cases parts with
  | nil => rfl
  | cons part more =>
      rw [partsOf, Text.splitAt_joinWith (by simp) fun p mem => (h p mem).noSlash]
      refine List.filter_eq_self.2 ?_
      intro p mem
      simpa using ⟨(h p mem).nonempty, (h p mem).notHere⟩

theorem partsOf_slash (t : Text) : partsOf (slash :: t) = partsOf t := by
  simp [partsOf, Text.splitAt]

/-- A slash ends what stands before it. -/
theorem partsOf_append_slash (front rest : Text) :
    partsOf (front ++ slash :: rest) = partsOf front ++ partsOf rest := by
  rw [partsOf, Text.splitAt_append_cons, List.filter_append]
  rfl

theorem partsOf_name {t : Text} (h : IsPart t) : partsOf t = [t] := by
  have single : ∀ part ∈ [t], IsPart part := by simpa using h
  exact partsOf_joinWith single

theorem anchorOf_cons {c : CodePoint} (h : c ≠ slash) (rest : Text) :
    anchorOf (c :: rest) = .relative := by
  match rest with
  | [] => simp [anchorOf, h]
  | [_] => simp [anchorOf, h]
  | _ :: _ :: _ => simp [anchorOf, h]

/-- In front of its parts a path has nothing, or an anchor written with slashes. -/
theorem allParts_ofText (t : Text) :
    ∃ anchors : List Text, (ofText t).allParts = anchors ++ partsOf t ∧
      ∀ part ∈ anchors, part.head? = some slash := by
  unfold allParts ofText
  dsimp only
  cases anchorOf t with
  | relative => exact ⟨[], rfl, by simp⟩
  | root => exact ⟨[lit "/"], rfl, by decide⟩
  | doubleRoot => exact ⟨[lit "//"], rfl, by decide⟩

/-- Joined parts begin with a code point other than a slash. -/
theorem joinWith_parts {parts : List Text} (nonempty : parts ≠ [])
    (h : ∀ part ∈ parts, IsPart part) :
    ∃ c rest, Text.joinWith [slash] parts = c :: rest ∧ c ≠ slash := by
  cases parts with
  | nil => exact absurd rfl nonempty
  | cons part more =>
      have first := h part (by simp)
      obtain ⟨c, tail, rfl⟩ := List.exists_cons_of_ne_nil first.nonempty
      have start : c ≠ slash := by
        rintro rfl
        exact first.noSlash (by simp)
      cases more with
      | nil => exact ⟨c, tail, rfl, start⟩
      | cons next others => exact ⟨c, _, rfl, start⟩

/-- A path that was written is read again. -/
theorem ofText_toText {p : FilePath} (h : p.WellFormed) : ofText p.toText = p := by
  rcases p with ⟨anchor, parts⟩
  cases parts with
  | nil => cases anchor <;> rfl
  | cons part more =>
      -- the anchor is read off the slashes at the front, and the parts begin with no slash
      obtain ⟨c, rest, text, start⟩ := joinWith_parts (List.cons_ne_nil part more) h
      have parts := partsOf_joinWith h
      unfold ofText toText
      rw [text] at parts
      cases anchor with
      | relative => simp [text, parts, Anchor.toText, anchorOf_cons start]
      | root =>
          have root : anchorOf (slash :: c :: rest) = .root := by
            cases rest <;> simp [anchorOf, start]
          simp only [reduceCtorEq, false_and, if_false, text, FilePath.mk.injEq]
          exact ⟨root, (partsOf_slash _).trans parts⟩
      | doubleRoot =>
          simp only [reduceCtorEq, false_and, if_false, text, FilePath.mk.injEq]
          refine ⟨?_, (partsOf_slash _).trans ((partsOf_slash _).trans parts)⟩
          show anchorOf (slash :: slash :: c :: rest) = .doubleRoot
          simp [anchorOf, start]

/-- Joining a name adds it to the parts. -/
theorem join_name (p : FilePath) {name : Text} (h : IsPart name) :
    p.join name = { p with parts := p.parts ++ [name] } := by
  have relative : anchorOf name = .relative := by
    obtain ⟨c, rest, rfl⟩ := List.exists_cons_of_ne_nil h.nonempty
    exact anchorOf_cons (fun e => h.noSlash (by simp [e])) rest
  rw [join, if_pos relative, partsOf_name h]

end CompileService.FilePath
