import CompileService.Text.Basic

/-!
# Cutting and joining

`Text.splitAt` and `Text.joinWith` undo each other on pieces without the separator.

* `splitAt_append`: a text is cut at its first separator, and the rest by itself.
  `splitAt_append_cons`: the same at any separator. `length_splitAt`: how many pieces there are.
* `splitAt_flatMap`: pieces with a separator behind each.
* `splitAt_joinWith`, `joinWith_splitAt`: the two ways round.
* `not_mem_of_mem_splitAt`: no piece holds the separator. `infix_of_mem_splitAt`: each piece stands
  in the text. `mem_joinWith`: what joined pieces hold.
* `joinWith_append_left`, `joinWith_append_last`: what is put in front of the first piece, and behind
  the last one.
* `dropStart?_append`, `dropEnd?_append`: taking off what was put in front, or behind.
-/

namespace CompileService.Text

variable {sep : CodePoint}

theorem splitAt_ne_nil (sep : CodePoint) (t : Text) : splitAt sep t ≠ [] := by
  cases t with
  | nil => simp [splitAt]
  | cons c rest =>
      rw [splitAt]
      split
      · simp
      · split <;> simp

/-- A text without the separator is one piece. -/
theorem splitAt_of_not_mem {t : Text} (free : sep ∉ t) : splitAt sep t = [t] := by
  induction t with
  | nil => rfl
  | cons c rest ih =>
      simp only [List.mem_cons, not_or] at free
      simp [splitAt, Ne.symm free.1, ih free.2]

/-- What stands before the first separator is put in front of the first piece. -/
theorem splitAt_append_left {front rest first : Text} {more : List Text} (free : sep ∉ front)
    (h : splitAt sep rest = first :: more) :
    splitAt sep (front ++ rest) = (front ++ first) :: more := by
  induction front with
  | nil => exact h
  | cons c tail ih =>
      simp only [List.mem_cons, not_or] at free
      simp [splitAt, Ne.symm free.1, ih free.2]

/-- What stands before the first separator changes the first piece only. -/
theorem tail_splitAt_append {front : Text} (free : sep ∉ front) (rest : Text) :
    (splitAt sep (front ++ rest)).tail = (splitAt sep rest).tail := by
  obtain ⟨first, more, cut⟩ := List.exists_cons_of_ne_nil (splitAt_ne_nil sep rest)
  rw [splitAt_append_left free cut, cut]
  rfl

/-- A text is cut at its first separator, and what follows by itself. -/
theorem splitAt_append {piece : Text} (free : sep ∉ piece) (rest : Text) :
    splitAt sep (piece ++ sep :: rest) = piece :: splitAt sep rest := by
  have cut : splitAt sep (sep :: rest) = [] :: splitAt sep rest := by
    rw [splitAt, if_pos rfl]
  rw [splitAt_append_left free cut, List.append_nil]

/-- At each separator a text falls into two texts that are cut by themselves. -/
theorem splitAt_append_cons (front rest : Text) :
    splitAt sep (front ++ sep :: rest) = splitAt sep front ++ splitAt sep rest := by
  induction front with
  | nil => exact splitAt_append (by simp) rest
  | cons c tail ih =>
      obtain ⟨first, more, cut⟩ := List.exists_cons_of_ne_nil (splitAt_ne_nil sep tail)
      rw [List.cons_append, splitAt, splitAt, ih, cut]
      split <;> rfl

/-- Pieces with a separator behind each are cut into the pieces and an empty last one. -/
theorem splitAt_flatMap {pieces : List Text} (free : ∀ piece ∈ pieces, sep ∉ piece) :
    splitAt sep (pieces.flatMap fun piece => piece ++ [sep]) = pieces ++ [[]] := by
  induction pieces with
  | nil => rfl
  | cons piece more ih =>
      obtain ⟨here, rest⟩ := List.forall_mem_cons.1 free
      rw [List.flatMap_cons, List.append_assoc, List.singleton_append, splitAt_append here,
        ih rest, List.cons_append]

/-- There is one piece more than separators. -/
theorem length_splitAt (sep : CodePoint) (t : Text) :
    (splitAt sep t).length = t.count sep + 1 := by
  induction t with
  | nil => rfl
  | cons c rest ih =>
      obtain ⟨first, more, cut⟩ := List.exists_cons_of_ne_nil (splitAt_ne_nil sep rest)
      rw [cut, List.length_cons] at ih
      by_cases same : c = sep
      · simp [splitAt, cut, same, ih]
      · simp [splitAt, cut, same, List.count_cons_of_ne same, ih]

theorem not_mem_of_mem_splitAt {t piece : Text} (h : piece ∈ splitAt sep t) : sep ∉ piece := by
  induction t generalizing piece with
  | nil =>
      simp only [splitAt, List.mem_singleton] at h
      simp [h]
  | cons c rest ih =>
      rw [splitAt] at h
      split at h
      · rcases List.mem_cons.1 h with rfl | later
        · simp
        · exact ih later
      · rename_i other
        cases pieces : splitAt sep rest with
        | nil => exact absurd pieces (splitAt_ne_nil sep rest)
        | cons first more =>
            rw [pieces] at h ih
            rcases List.mem_cons.1 h with rfl | later
            · simp [Ne.symm other, ih (List.mem_cons_self ..)]
            · exact ih (List.mem_cons_of_mem _ later)

theorem joinWith_cons_cons (sep piece next : Text) (more : List Text) :
    joinWith sep (piece :: next :: more) = piece ++ sep ++ joinWith sep (next :: more) := rfl

/-- What stands in front of joined pieces goes on with the first one. -/
theorem joinWith_append_left (sep front piece : Text) (more : List Text) :
    joinWith sep ((front ++ piece) :: more) = front ++ joinWith sep (piece :: more) := by
  cases more with
  | nil => rfl
  | cons next rest => simp [joinWith_cons_cons]

theorem joinWith_cons_left (sep : Text) (c : CodePoint) (piece : Text) (more : List Text) :
    joinWith sep ((c :: piece) :: more) = c :: joinWith sep (piece :: more) :=
  joinWith_append_left sep [c] piece more

/-- Two rows of pieces are joined one after the other. -/
theorem joinWith_append {front back : List Text} (left : front ≠ []) (right : back ≠ []) :
    joinWith [sep] (front ++ back) = joinWith [sep] front ++ sep :: joinWith [sep] back := by
  induction front with
  | nil => exact absurd rfl left
  | cons piece more ih =>
      cases more with
      | nil =>
          obtain ⟨next, rest, rfl⟩ := List.exists_cons_of_ne_nil right
          simp [joinWith]
      | cons next rest =>
          have step := ih (List.cons_ne_nil next rest)
          simp only [List.cons_append] at step ⊢
          rw [joinWith_cons_cons, joinWith_cons_cons, step]
          simp only [List.append_assoc]

/-- A last piece is joined after a separator. -/
theorem joinWith_append_singleton {pieces : List Text} (nonempty : pieces ≠ []) (last : Text) :
    joinWith [sep] (pieces ++ [last]) = joinWith [sep] pieces ++ sep :: last :=
  joinWith_append nonempty (List.cons_ne_nil last [])

/-- What follows joined pieces goes on with the last one. -/
theorem joinWith_append_last (sep : CodePoint) (front : List Text) (last more : Text) :
    joinWith [sep] (front ++ [last]) ++ more = joinWith [sep] (front ++ [last ++ more]) := by
  cases front with
  | nil => rfl
  | cons part others =>
      rw [joinWith_append_singleton (List.cons_ne_nil part others),
        joinWith_append_singleton (List.cons_ne_nil part others), List.append_assoc]
      rfl

/-- Joined pieces are cut into the pieces again. -/
theorem splitAt_joinWith {pieces : List Text} (nonempty : pieces ≠ [])
    (free : ∀ piece ∈ pieces, sep ∉ piece) : splitAt sep (joinWith [sep] pieces) = pieces := by
  induction pieces with
  | nil => exact absurd rfl nonempty
  | cons piece more ih =>
      cases more with
      | nil => exact splitAt_of_not_mem (free piece (by simp))
      | cons next rest =>
          rw [joinWith_cons_cons, List.append_assoc, List.singleton_append,
            splitAt_append (free piece (by simp)),
            ih (by simp) fun p h => free p (List.mem_cons_of_mem _ h)]

/-- The pieces of a text are joined into the text again. -/
theorem joinWith_splitAt (sep : CodePoint) (t : Text) : joinWith [sep] (splitAt sep t) = t := by
  induction t with
  | nil => rfl
  | cons c rest ih =>
      rw [splitAt]
      cases pieces : splitAt sep rest with
      | nil => exact absurd pieces (splitAt_ne_nil sep rest)
      | cons first more =>
          rw [pieces] at ih
          by_cases h : c = sep
          · simp [h, joinWith_cons_cons, ih]
          · cases more with
            | nil => simpa [h, joinWith] using ih
            | cons next others => simpa [h, joinWith_cons_cons] using ih

/-- A code point of joined pieces is the separator or one of a piece. -/
theorem mem_joinWith {pieces : List Text} {c : CodePoint} (h : c ∈ joinWith [sep] pieces) :
    c = sep ∨ ∃ piece ∈ pieces, c ∈ piece := by
  induction pieces with
  | nil => cases h
  | cons piece more ih =>
      cases more with
      | nil => exact .inr ⟨piece, List.mem_cons_self, h⟩
      | cons next rest =>
          rw [joinWith_cons_cons, List.mem_append, List.mem_append] at h
          rcases h with (here | separator) | later
          · exact .inr ⟨piece, List.mem_cons_self, here⟩
          · exact .inl (List.mem_singleton.1 separator)
          · refine (ih later).imp_right ?_
            rintro ⟨other, mem, inside⟩
            exact ⟨other, List.mem_cons_of_mem _ mem, inside⟩

theorem mem_joinWith_of_mem {pieces : List Text} {piece : Text} {c : CodePoint}
    (mem : piece ∈ pieces) (inside : c ∈ piece) : c ∈ joinWith [sep] pieces := by
  induction pieces with
  | nil => cases mem
  | cons first more ih =>
      cases more with
      | nil =>
          obtain rfl := List.mem_singleton.1 mem
          exact inside
      | cons next rest =>
          rw [joinWith_cons_cons, List.mem_append, List.mem_append]
          rcases List.mem_cons.1 mem with rfl | later
          · exact .inl (.inl inside)
          · exact .inr (ih later)

theorem infix_joinWith_of_mem {sep piece : Text} {pieces : List Text} (mem : piece ∈ pieces) :
    piece <:+: joinWith sep pieces := by
  induction pieces with
  | nil => cases mem
  | cons first more ih =>
      cases more with
      | nil =>
          obtain rfl := List.mem_singleton.1 mem
          exact List.infix_rfl
      | cons next rest =>
          rw [joinWith_cons_cons, List.append_assoc]
          rcases List.mem_cons.1 mem with rfl | later
          · exact (List.prefix_append piece _).isInfix
          · exact (ih later).trans
              ((List.suffix_append sep _).trans (List.suffix_append first _)).isInfix

/-- A piece of a text stands in the text. -/
theorem infix_of_mem_splitAt {t piece : Text} (mem : piece ∈ splitAt sep t) : piece <:+: t := by
  have inside : piece <:+: joinWith [sep] (splitAt sep t) := infix_joinWith_of_mem mem
  rwa [joinWith_splitAt] at inside

/-! ## Starts and ends -/

theorem dropStart?_append (start rest : Text) :
    dropStart? start (start ++ rest) = some rest := by
  induction start with
  | nil => cases rest <;> rfl
  | cons c more ih => simp [dropStart?, ih]

theorem eq_append_of_dropStart? {start t rest : Text} (h : dropStart? start t = some rest) :
    t = start ++ rest := by
  induction start generalizing t with
  | nil => simpa [dropStart?] using h
  | cons c more ih =>
      cases t with
      | nil => simp [dropStart?] at h
      | cons d tail =>
          simp only [dropStart?] at h
          split at h
          · rename_i same
            rw [same, ih h, List.cons_append]
          · cases h

theorem dropEnd?_append (t ending : Text) : dropEnd? ending (t ++ ending) = some t := by
  have suffix : ending.isSuffixOf (t ++ ending) = true := by
    rw [List.isSuffixOf_iff_suffix]
    exact List.suffix_append t ending
  simp [dropEnd?, suffix]

end CompileService.Text
