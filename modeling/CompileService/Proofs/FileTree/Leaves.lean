import CompileService.Proofs.FileTree.Directories

/-!
# Files put and taken away

Creating, writing and removing a file leaves the directories of a tree as they are, and so the
answers to all questions for a directory.

* `SameDirs`: two trees with the same directories. Paths lead to the same places in both
  (`SameDirs.locate`), and questions about them have the same answer if they have it there
  (`SameDirs.answer`).
* `sameDirs_createFile` and its neighbours: the operations on files.
* `fileContent_storeFile`, `not_isFile_of_dropFile`: what was written is read back, and what was
  removed is no file any more.
* `FilePath.Distinct`, `Unwritten`: paths that lead to different places, and a place to which no
  file was written.
-/

namespace CompileService

namespace FileTree

/-! ## The same directories -/

/-- Two trees have the same directories. -/
def SameDirs (f g : Folder) : Prop := ∀ q, f.look q = some .dir ↔ g.look q = some .dir

namespace SameDirs

variable {f g h : Folder} {path : FilePath}

theorem refl (f : Folder) : SameDirs f f := fun _ => Iff.rfl

theorem symm (same : SameDirs f g) : SameDirs g f := fun q => (same q).symm

theorem trans (first : SameDirs f g) (second : SameDirs g h) : SameDirs f h :=
  fun q => (first q).trans (second q)

theorem locate {place : Location} (same : SameDirs f g) (found : locate f path = .ok place) :
    FileTree.locate g path = .ok place :=
  locate_of_dirs (fun q => (same q).1) found

/-- A part that is too long is met in both trees. -/
theorem descend_tooLong (same : SameDirs f g) {parts : List Text} {place : Location}
    (long : descend f place parts = .error .nameTooLong) :
    descend g place parts = .error .nameTooLong := by
  induction parts generalizing place with
  | nil => cases long
  | cons part more ih =>
      rw [descend_cons] at long ⊢
      cases here : f.look place with
      | none => simp [here] at long
      | some entry =>
          cases entry with
          | file content executable => simp [here] at long
          | dir =>
              rw [here] at long
              rw [(same place).1 here]
              dsimp only at long ⊢
              split
              · rfl
              · rename_i fits
                rw [if_neg fits] at long
                exact ih long

theorem tooLong (same : SameDirs f g)
    (long : FileTree.locate f path = .error (.system .nameTooLong)) :
    FileTree.locate g path = .error (.system .nameTooLong) := by
  rw [locate_eq] at long ⊢
  cases wrong : pathFault? path with
  | some fault => simpa [wrong] using long
  | none =>
      simp only [wrong] at long ⊢
      cases found : descend f [] path.parts with
      | ok place => rw [found] at long; cases long
      | error errno =>
          rw [found] at long
          obtain rfl : errno = .nameTooLong := PathFault.system.inj (Except.error.inj long)
          rw [same.descend_tooLong found]
          rfl

/-- A question has the same answer in both trees, if it has where the path leads. -/
theorem answer {question : Entry → Bool} (same : SameDirs f g)
    (shown : ∀ place, FileTree.locate f path = .ok place →
      (f.look place).any question = (g.look place).any question) :
    FileTree.answer question f path = FileTree.answer question g path := by
  have no : ∀ {a : Folder} {fault}, FileTree.locate a path = .error fault →
      fault ≠ .system .nameTooLong → FileTree.answer question a path = .ok false := by
    intro a fault here other
    rw [FileTree.answer, here]
    split
    · cases ‹Except.error fault = Except.ok _›
    · rename_i same
      exact absurd (Except.error.inj same) other
    · rfl
  cases here : FileTree.locate f path with
  | ok place =>
      rw [answer_of_locate here, answer_of_locate (same.locate here), shown place here]
  | error fault =>
      -- what is refused in one tree is refused in the other, and too long there if it is here
      cases there : FileTree.locate g path with
      | ok place =>
          rw [same.symm.locate there] at here
          cases here
      | error fault' =>
          by_cases long : fault = .system .nameTooLong
          · subst long
            rw [FileTree.answer, FileTree.answer, here, same.tooLong here]
          · have other : fault' ≠ .system .nameTooLong := by
              rintro rfl
              rw [same.symm.tooLong there] at here
              exact long (Except.error.inj here).symm
            rw [no here long, no there other]

/-- Whether there is a directory depends on the directories only. -/
theorem isDirectory (same : SameDirs f g) (path : FilePath) :
    FileTree.isDirectory f path = FileTree.isDirectory g path := by
  rw [isDirectory_eq, isDirectory_eq]
  refine same.answer fun place _ => ?_
  have dirs := same place
  cases left : f.look place with
  | none =>
      cases right : g.look place with
      | none => rfl
      | some entry => simpa [left, right] using dirs
  | some entry =>
      cases right : g.look place with
      | none => simpa [left, right] using dirs
      | some other => simpa [left, right] using dirs

end SameDirs

/-! ## Operations on files -/

/-- A rule that makes no directory keeps the directories. -/
theorem sameDirs_of_applyAt {rule : LeafRule} {f g : Folder} {path : FilePath}
    (files : ∀ old inner, rule.result old ≠ .ok (some (.dir inner)))
    (h : rule.applyAt f path = .ok g) : SameDirs f g := by
  obtain ⟨place, change, -, result, after⟩ := LeafRule.applyAt_ok h
  intro q
  refine ⟨LeafRule.dir_of_applyAt h, fun dir => ?_⟩
  rw [after] at dir
  by_cases here : q = place
  · rw [if_pos here] at dir
    cases change with
    | none => cases dir
    | some node =>
        cases node with
        | file content executable => cases dir
        | dir inner => exact absurd result (files _ inner)
  · rwa [if_neg here] at dir

section
variable {f g : Folder} {path : FilePath}

theorem sameDirs_createFile (h : createFile f path = .ok g) : SameDirs f g := by
  rw [createFile_eq] at h
  refine sameDirs_of_applyAt (fun old inner => ?_) h
  cases old <;> simp [LeafRule.create]

theorem sameDirs_storeFile {content : List UInt8} (h : storeFile f path content = .ok g) :
    SameDirs f g := by
  rw [storeFile_eq] at h
  refine sameDirs_of_applyAt (fun old inner => ?_) h
  cases old with
  | none => simp [LeafRule.store]
  | some entry => cases entry <;> simp [LeafRule.store]

theorem sameDirs_dropFile (h : dropFile f path = .ok g) : SameDirs f g := by
  rw [dropFile_eq] at h
  refine sameDirs_of_applyAt (fun old inner => ?_) h
  cases old with
  | none => simp [LeafRule.drop]
  | some entry => cases entry <;> simp [LeafRule.drop]

/-- A file that is stored has its bytes where the path leads, and all else is as it was. -/
theorem look_storeFile {content : List UInt8} (h : storeFile f path content = .ok g) :
    ∃ place executable, locate f path = .ok place ∧
      ∀ q, g.look q = if q = place then some (.file content executable) else f.look q := by
  rw [storeFile_eq] at h
  obtain ⟨place, change, found, result, after⟩ := LeafRule.applyAt_ok h
  have file : ∃ executable, change = some (.file content executable) := by
    simp only [LeafRule.store] at result
    split at result
    · exact ⟨_, (Except.ok.inj result).symm⟩
    · exact ⟨_, (Except.ok.inj result).symm⟩
    · cases result
  obtain ⟨executable, rfl⟩ := file
  exact ⟨place, executable, found, after⟩

/-- The bytes of a path are those of the file that it leads to. -/
theorem fileContent_iff {content : List UInt8} : fileContent f path = .ok content ↔
    ∃ place executable, locate f path = .ok place ∧
      f.look place = some (.file content executable) := by
  rw [fileContent_eq]
  constructor
  · intro read
    split at read
    · cases read
    · rename_i place found
      split at read
      · cases read
      · rename_i executable shown
        obtain rfl := Except.ok.inj read
        exact ⟨place, executable, found, shown⟩
      · cases read
  · rintro ⟨place, executable, found, shown⟩
    rw [found]
    dsimp only
    rw [shown]

/-- A file that is removed is gone from where the path leads, and all else is as it was. -/
theorem look_dropFile (h : dropFile f path = .ok g) :
    ∃ place, locate f path = .ok place ∧
      ∀ q, g.look q = if q = place then none else f.look q := by
  rw [dropFile_eq] at h
  obtain ⟨place, change, found, result, after⟩ := LeafRule.applyAt_ok h
  have gone : change = none := by
    simp only [LeafRule.drop] at result
    split at result
    · cases result
    · exact (Except.ok.inj result).symm
    · cases result
  subst gone
  exact ⟨place, found, after⟩

/-- A file that is created is empty and stands where the path leads, and all else is as it was. -/
theorem look_createFile (h : createFile f path = .ok g) :
    ∃ place, locate f path = .ok place ∧
      ∀ q, g.look q = if q = place then some (.file [] false) else f.look q := by
  rw [createFile_eq] at h
  obtain ⟨place, change, found, result, after⟩ := LeafRule.applyAt_ok h
  cases old : f.look place with
  | none =>
      simp only [LeafRule.create, old, Except.ok.injEq] at result
      subst result
      exact ⟨place, found, after⟩
  | some entry => simp [LeafRule.create, old] at result

/-- What was written is read back. -/
theorem fileContent_storeFile {content : List UInt8} (h : storeFile f path content = .ok g) :
    fileContent g path = .ok content := by
  obtain ⟨place, executable, found, after⟩ := look_storeFile h
  exact fileContent_iff.2 ⟨place, executable, (sameDirs_storeFile h).locate found, by simp [after]⟩

theorem isFile_eq (f : Folder) (path : FilePath) :
    isFile f path = answer (fun entry => entry ≠ .dir) f path := by
  refine probe_eq ?_ f path
  intro node
  cases node <;> rfl

theorem isFile_iff : isFile f path = .ok true ↔
    ∃ place, locate f path = .ok place ∧ f.FileAt place := by
  rw [isFile_eq]
  constructor
  · intro file
    unfold answer at file
    split at file
    · rename_i place found
      refine ⟨place, found, ?_⟩
      cases here : f.look place with
      | none => simp [here] at file
      | some entry =>
          cases entry with
          | file content executable => exact ⟨content, executable, here⟩
          | dir => simp [here] at file
    · cases file
    · cases file
  · rintro ⟨place, found, content, executable, shown⟩
    rw [answer_of_locate found, shown]
    rfl

/-- After an attempt to remove a file the path leads to none. -/
theorem not_isFile_of_dropFile
    (h : dropFile f path = .ok g ∨ (∃ fault, dropFile f path = .error fault) ∧ g = f) :
    isFile g path ≠ .ok true := by
  rw [Ne, isFile_iff]
  rintro ⟨place, found, file⟩
  rcases h with dropped | ⟨⟨fault, refused⟩, rfl⟩
  · exact (fileAt_of_dropFile dropped file).2 ((sameDirs_dropFile dropped).symm.locate found)
  · obtain ⟨content, executable, shown⟩ := file
    rw [dropFile_eq, LeafRule.applyAt_of_locate found, shown] at refused
    cases refused

/-- Removing a file succeeds, and nothing else changes. -/
theorem dropped_of_fileContent {content : List UInt8} (there : fileContent f path = .ok content)
    (h : dropFile f path = .ok g ∨ (∃ fault, dropFile f path = .error fault) ∧ g = f) :
    SameDirs f g ∧ ∃ place, locate f path = .ok place ∧
      ∀ q, g.look q = if q = place then none else f.look q := by
  rcases h with dropped | ⟨⟨fault, refused⟩, -⟩
  · exact ⟨sameDirs_dropFile dropped, look_dropFile dropped⟩
  · obtain ⟨place, executable, found, shown⟩ := fileContent_iff.1 there
    rw [dropFile_eq, LeafRule.applyAt_of_locate found, shown] at refused
    cases refused

end

end FileTree

/-! ## Places -/

namespace FilePath

/-- Two paths are distinct: they have different homes. -/
def Distinct (p q : FilePath) : Prop := p.home ≠ q.home

theorem Distinct.symm {p q : FilePath} (apart : p.Distinct q) : q.Distinct p := Ne.symm apart

theorem home_name (p : FilePath) {name : Text} (plain : up ≠ name) :
    { p with parts := p.parts ++ [name] }.home = p.home ++ [name] := by
  rw [home, home, List.foldl_append]
  exact if_neg plain.symm

/-- In distinct directories the paths of names are distinct. -/
theorem Distinct.names {p q : FilePath} (apart : p.Distinct q) {name other : Text}
    (plain : up ≠ name) (plain' : up ≠ other) :
    { p with parts := p.parts ++ [name] }.Distinct { q with parts := q.parts ++ [other] } := by
  intro same
  rw [home_name p plain, home_name q plain'] at same
  exact apart (List.append_inj_left' same rfl)

end FilePath

namespace FileTree

variable {f g h : Folder} {path other : FilePath}

theorem ne_of_distinct (apart : path.Distinct other) {place place' : Location}
    (found : locate f path = .ok place) (found' : locate g other = .ok place') :
    place ≠ place' := by
  rw [home_of_locate found, home_of_locate found']
  exact apart

/-- A change where another path leads changes nothing for what exists. -/
theorem pathExists_distinct {place : Location} {entry : Option Entry} (apart : other.Distinct path)
    (same : SameDirs f g) (found : locate f other = .ok place)
    (after : ∀ q, g.look q = if q = place then entry else f.look q) :
    pathExists g path = pathExists f path := by
  rw [pathExists_eq, pathExists_eq]
  refine (same.answer fun there led => ?_).symm
  rw [after, if_neg (ne_of_distinct apart found led).symm]

/-- A path leads to a place at which nothing stands. -/
def Gone (f : Folder) (path : FilePath) : Prop :=
  ∃ place, locate f path = .ok place ∧ f.look place = none

theorem Gone.pathExists (gone : Gone f path) : FileTree.pathExists f path = .ok false := by
  obtain ⟨place, found, nothing⟩ := gone
  rw [pathExists_eq, answer_of_locate found, nothing]
  rfl

/-- Where another path leads a change brings nothing back. -/
theorem Gone.distinct {place : Location} {entry : Option Entry} (gone : Gone f path)
    (apart : other.Distinct path) (same : SameDirs f g) (found : locate f other = .ok place)
    (after : ∀ q, g.look q = if q = place then entry else f.look q) : Gone g path := by
  obtain ⟨there, led, nothing⟩ := gone
  refine ⟨there, same.locate led, ?_⟩
  rw [after, if_neg (ne_of_distinct apart found led).symm, nothing]

/-- No file was written to the home of a path: one that stands there in the second tree stood there
in the first one. -/
def Unwritten (path : FilePath) (f g : Folder) : Prop :=
  ∀ content executable, g.look path.home = some (.file content executable) →
    f.look path.home = some (.file content executable)

namespace Unwritten

theorem refl (path : FilePath) (f : Folder) : Unwritten path f f := fun _ _ shown => shown

theorem trans (first : Unwritten path f g) (second : Unwritten path g h) : Unwritten path f h :=
  fun content executable shown => first content executable (second content executable shown)

/-- A change where another path leads writes no file to the home of this one. -/
theorem of_look {place : Location} {entry : Option Entry} (apart : other.Distinct path)
    (found : locate f other = .ok place)
    (after : ∀ q, g.look q = if q = place then entry else f.look q) : Unwritten path f g := by
  intro content executable shown
  have away : path.home ≠ place := by
    rw [home_of_locate found]
    exact apart.symm
  rwa [after, if_neg away] at shown

theorem createFile (apart : other.Distinct path)
    (h : createFile f other = .ok g) : Unwritten path f g := by
  obtain ⟨place, found, after⟩ := look_createFile h
  exact of_look apart found after

theorem storeFile {content : List UInt8} (apart : other.Distinct path)
    (h : storeFile f other content = .ok g) : Unwritten path f g := by
  obtain ⟨place, executable, found, after⟩ := look_storeFile h
  exact of_look apart found after

theorem of_grown (grown : f.Grown g) : Unwritten path f g := by
  intro content executable shown
  rcases grown path.home with same | ⟨-, dir⟩
  · rw [← same, shown]
  · rw [dir] at shown
    cases shown

/-- What is removed is not written. -/
theorem of_removed {place : Location}
    (after : ∀ q, g.look q = if q = place then none else f.look q) : Unwritten path f g := by
  intro content executable shown
  rw [after] at shown
  split at shown
  · cases shown
  · exact shown

end Unwritten

end FileTree

end CompileService
