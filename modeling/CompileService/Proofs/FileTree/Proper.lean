import CompileService.Proofs.FileTree.Plain
import CompileService.Proofs.Path

/-!
# Proper trees

A file system gives every entry of a directory a name of its own, and only some texts are names.

* `IsName`: the texts that are names.
* `Folder.Proper`: a tree in which all entries have names, and no two entries of a directory have
  the same one. `Folder.Proper.inner`: so do the directories in it.
* `clean_below`: the way from a directory to an entry below it. `locate_below`: where it leads.
-/

namespace CompileService

/-- A text that an entry of a directory can have for its name. -/
structure IsName (name : Text) : Prop where
  part : FilePath.IsPart name
  notUp : name ≠ FilePath.up
  encodable : name.Encodable
  noNul : ∀ c ∈ name, c.val ≠ 0
  short : Utf8.size name ≤ FileTree.nameLimit

instance (name : Text) : Decidable (IsName name) :=
  decidable_of_iff
    ((name ≠ [] ∧ name ≠ FilePath.here ∧ FilePath.slash ∉ name) ∧ name ≠ FilePath.up ∧
      (∀ c ∈ name, c.isSurrogate = false) ∧ (∀ c ∈ name, c.val ≠ 0) ∧
      Utf8.size name ≤ FileTree.nameLimit)
    ⟨fun ⟨⟨nonempty, notHere, noSlash⟩, notUp, encodable, noNul, short⟩ =>
      ⟨⟨nonempty, notHere, noSlash⟩, notUp, encodable, noNul, short⟩,
    fun ⟨⟨nonempty, notHere, noSlash⟩, notUp, encodable, noNul, short⟩ =>
      ⟨⟨nonempty, notHere, noSlash⟩, notUp, encodable, noNul, short⟩⟩

namespace Folder

/-- A tree that a file system can hold: all entries have names, and those of one directory have
different ones. -/
def Proper : Folder → Prop
  | .empty => True
  | .file name _ _ rest => IsName name ∧ rest.find? name = none ∧ rest.Proper
  | .dir name inner rest => IsName name ∧ rest.find? name = none ∧ inner.Proper ∧ rest.Proper

instance decidableProper : (f : Folder) → Decidable f.Proper
  | .empty => isTrue trivial
  | .file name _ _ rest =>
    have := decidableProper rest
    inferInstanceAs (Decidable (IsName name ∧ rest.find? name = none ∧ rest.Proper))
  | .dir name inner rest =>
    have := decidableProper inner
    have := decidableProper rest
    inferInstanceAs (Decidable (IsName name ∧ rest.find? name = none ∧ inner.Proper ∧ rest.Proper))

/-! ## What stands in a folder -/

section
variable (name m : Text) (more : Location) (content : List UInt8) (executable : Bool)
  (inner rest : Folder)

theorem look_cons_file :
    (Folder.file name content executable rest).look (m :: more) =
      if name = m then ((Node.file content executable).at? more).map Node.entry
      else rest.look (m :: more) := by
  rw [look, look, at?_cons, at?_cons, find?]
  split <;> rfl

theorem look_cons_dir :
    (Folder.dir name inner rest).look (m :: more) =
      if name = m then inner.look more else rest.look (m :: more) := by
  rw [look, look, look, at?_cons, at?_cons, find?]
  split <;> rfl

end

theorem look_of_missing {f : Folder} {name : Text} (missing : f.find? name = none)
    (more : Location) : f.look (name :: more) = none := by
  rw [look, at?_cons, missing]
  rfl

theorem fileAt_nil (f : Folder) : ¬ f.FileAt [] := by
  rintro ⟨content, executable, shown⟩
  cases shown

theorem fileAt_of_missing {f : Folder} {name : Text} (missing : f.find? name = none)
    (more : Location) : ¬ f.FileAt (name :: more) := by
  rintro ⟨content, executable, shown⟩
  rw [look_of_missing missing] at shown
  cases shown

section
variable {name m : Text} {more : Location} {content : List UInt8} {executable : Bool}
  {inner rest : Folder}

theorem fileAt_cons_file : (Folder.file name content executable rest).FileAt (m :: more) ↔
    if name = m then more = [] else rest.FileAt (m :: more) := by
  unfold FileAt
  rw [look_cons_file]
  by_cases same : name = m
  · rw [if_pos same, if_pos same]
    cases more with
    | nil => simp [Node.entry]
    | cons next others => simp [Node.at?]
  · rw [if_neg same, if_neg same]

theorem fileAt_cons_dir : (Folder.dir name inner rest).FileAt (m :: more) ↔
    if name = m then inner.FileAt more else rest.FileAt (m :: more) := by
  unfold FileAt
  rw [look_cons_dir]
  by_cases same : name = m
  · rw [if_pos same, if_pos same]
  · rw [if_neg same, if_neg same]

end

/-- In a proper tree the way to an entry has names only. -/
theorem Proper.isName {f : Folder} (proper : f.Proper) {place : Location}
    (there : f.look place ≠ none) : ∀ part ∈ place, IsName part := by
  induction f generalizing place with
  | empty =>
      cases place with
      | nil => simp
      | cons name more => exact absurd (look_of_missing rfl more) there
  | file name content executable rest ih =>
      obtain ⟨isName, -, proper⟩ := proper
      cases place with
      | nil => simp
      | cons m more =>
          rw [look_cons_file] at there
          split at there
          · subst m
            cases more with
            | nil => simpa using isName
            | cons next others => exact absurd rfl there
          · exact ih proper there
  | dir name inner rest ihInner ih =>
      obtain ⟨isName, -, properInner, proper⟩ := proper
      cases place with
      | nil => simp
      | cons m more =>
          rw [look_cons_dir] at there
          split at there
          · subst m
            exact List.forall_mem_cons.2 ⟨isName, ihInner properInner there⟩
          · exact ih proper there

/-- The directories in a proper tree are proper. -/
theorem Proper.inner {f g : Folder} (proper : f.Proper) {place : Location}
    (found : f.at? place = some (.dir g)) : g.Proper := by
  induction f generalizing place with
  | empty =>
      cases place with
      | nil =>
          cases found
          exact proper
      | cons name more =>
          rw [at?_cons] at found
          cases found
  | file name content executable rest ih =>
      cases place with
      | nil =>
          cases found
          exact proper
      | cons m more =>
          rw [at?_cons, find?] at found
          split at found
          · cases more <;> cases found
          · exact ih proper.2.2 (by rw [at?_cons, found])
  | dir name inner rest ihInner ih =>
      cases place with
      | nil =>
          cases found
          exact proper
      | cons m more =>
          rw [at?_cons, find?] at found
          split at found
          · exact ihInner proper.2.2.1 found
          · exact ih proper.2.2.2 (by rw [at?_cons, found])

end Folder

namespace FileTree

/-! ## Paths into a directory -/

/-- Parts are followed one after the other. -/
theorem descend_append (f : Folder) (place : Location) (front back : List Text) :
    descend f place (front ++ back) = (descend f place front).bind (descend f · back) := by
  induction front generalizing place with
  | nil => rfl
  | cons part more ih =>
      rw [List.cons_append, descend_cons, descend_cons]
      cases f.look place with
      | none => rfl
      | some entry =>
          cases entry with
          | file content executable => rfl
          -- the part is followed, and the rest from where it leads
          | dir =>
              dsimp only
              split
              · rfl
              · exact ih _

/-- The texts that the parts of a path may be for its text to be without fault: what they hold can
be spelled, and none of it is U+0000. -/
def CleanParts (parts : List Text) : Prop :=
  ∀ part ∈ parts, part.Spellable ∧ ∀ c ∈ part, c.val ≠ 0

theorem cleanParts_of_locate {f : Folder} {path : FilePath} {place : Location}
    (found : locate f path = .ok place) : CleanParts path.parts := by
  obtain ⟨valid, noNul, -⟩ := pathFault?_eq_none.1 (faultless_of_locate found)
  intro part mem
  have inside : ∀ c ∈ part, c ∈ path.toText := by
    intro c here
    have parts : path.parts ≠ [] := List.ne_nil_of_mem mem
    rw [FilePath.toText, if_neg (fun both => parts both.2), List.mem_append]
    exact .inr (Text.mem_joinWith_of_mem mem here)
  refine ⟨fun c here => valid c (inside c here), fun c here zero => ?_⟩
  have nul : path.toText.any (·.val == 0) = true :=
    List.any_eq_true.2 ⟨c, inside c here, by simp [zero]⟩
  rw [noNul] at nul
  cases nul

theorem clean_anchor (anchor : Anchor) :
    ∀ c ∈ anchor.toText, c.isSurrogate = false ∧ c.val ≠ 0 := by
  cases anchor <;> decide

/-- With clean parts a path can only be too long. -/
theorem pathFault?_of_clean {path : FilePath} (clean : CleanParts path.parts) :
    pathFault? path =
      if pathLimit < Utf8.size path.toText then some (.system .nameTooLong) else none := by
  -- the text of a path holds its parts and separators, and these are spelled as well
  have points : ∀ c ∈ path.toText,
      (c.isSurrogate = true → Utf8.isEscape c = true) ∧ c.val ≠ 0 := by
    have plain : ∀ {c : CodePoint}, c.isSurrogate = false →
        c.isSurrogate = true → Utf8.isEscape c = true := by
      intro c valid surrogate
      rw [valid] at surrogate
      cases surrogate
    intro c mem
    rw [FilePath.toText] at mem
    split at mem
    · revert c
      decide
    · rcases List.mem_append.1 mem with front | joined
      · have bare := clean_anchor path.anchor c front
        exact ⟨plain bare.1, bare.2⟩
      · rcases Text.mem_joinWith joined with rfl | ⟨part, inside, here⟩
        · decide
        · exact ⟨(clean part inside).1 c here, (clean part inside).2 c here⟩
  have valid : Utf8.firstStray? path.toText = none :=
    Utf8.firstStray?_eq_none.2 fun c mem => (points c mem).1
  have noNul : ¬ path.toText.any (·.val == 0) = true := by
    rw [List.any_eq_true]
    rintro ⟨c, mem, zero⟩
    exact (points c mem).2 (by simpa using zero)
  rw [pathFault?, valid]
  dsimp only
  rw [if_neg noNul]

/-- A directory that is opened stands where its path leads. -/
theorem openFolder_ok {f g : Folder} {dir : FilePath} (opened : openFolder f dir = .ok g) :
    ∃ place, locate f dir = .ok place ∧ f.at? place = some (.dir g) := by
  unfold openFolder inspect visit at opened
  cases found : locate f dir with
  | error fault => simp [found, Except.map] at opened
  | ok place =>
      refine ⟨place, rfl, ?_⟩
      cases here : f.at? place with
      | none => simp [found, Except.map, here] at opened
      | some node =>
          cases node with
          | file content executable => simp [found, Except.map, here] at opened
          | dir inner =>
              simp only [found, Except.map, here, Except.ok.injEq] at opened
              rw [opened]

/-- What a directory of a proper tree holds is proper. -/
theorem proper_of_openFolder {f g : Folder} {dir : FilePath} (proper : f.Proper)
    (opened : openFolder f dir = .ok g) : g.Proper := by
  obtain ⟨place, -, here⟩ := openFolder_ok opened
  exact proper.inner here

/-- In a proper tree the way from a directory to an entry below it has names only, and together with
the path of the directory nothing that a path must not hold. -/
theorem clean_below {f g : Folder} {dir : FilePath} (proper : f.Proper)
    (opened : openFolder f dir = .ok g) {place : Location} (there : g.look place ≠ none) :
    ∃ root, locate f dir = .ok root ∧ f.at? root = some (.dir g) ∧
      (∀ part ∈ place, IsName part) ∧ CleanParts (dir.parts ++ place) := by
  obtain ⟨root, found, here⟩ := openFolder_ok opened
  have names : ∀ part ∈ place, IsName part := (proper.inner here).isName there
  refine ⟨root, found, here, names, fun part mem => ?_⟩
  rcases List.mem_append.1 mem with before | after
  · exact cleanParts_of_locate found part before
  · exact ⟨(names part after).encodable.spellable, (names part after).noNul⟩

/-- In a proper tree a path from a directory to an entry below it leads there, if it is not too
long. -/
theorem locate_below {f g : Folder} {dir : FilePath} (proper : f.Proper)
    (opened : openFolder f dir = .ok g) {place : Location} (there : g.look place ≠ none) :
    let path : FilePath := { dir with parts := dir.parts ++ place }
    locate f path = .error (.system .nameTooLong) ∨
      ∃ at_, locate f path = .ok at_ ∧ f.look at_ = g.look place := by
  dsimp only
  obtain ⟨root, found, here, names, clean⟩ := clean_below proper opened there
  have shown : ∀ q, f.look (root ++ q) = g.look q := by
    intro q
    rw [Folder.look, Folder.at?_append, here]
    rfl
  have followed := descend_of_locate found
  have plain : PlainParts place := fun part mem => ⟨(names part mem).notUp, (names part mem).short⟩
  -- there is no step up on the way, and all that is passed is a directory
  have down : descend f root place = .ok (root ++ place) := by
    refine descend_of_dirs plain fun t passing => ?_
    obtain ⟨⟨front, rfl⟩, before, proper⟩ := prefix_of_passed plain.noUp passing
    refine Folder.look_dir_of_prefix ?_ before proper
    rw [shown]
    exact there
  rw [locate_eq, pathFault?_of_clean clean]
  split
  · rename_i fault long
    split at long
    · cases long
      exact .inl rfl
    · cases long
  · refine .inr ⟨root ++ place, ?_, shown place⟩
    dsimp only
    rw [descend_append, followed]
    exact congrArg (Except.mapError PathFault.system) down

end FileTree

end CompileService
