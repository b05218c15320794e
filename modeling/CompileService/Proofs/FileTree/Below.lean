import CompileService.Proofs.FileTree.Overlong

/-!
# What stands below a directory

A path that goes on from a directory without a way up leads to what the directory holds there, and
what stands outside of the directory makes no difference.

* `lookBelow`: what stands at a location below the directory of a path.
* `isFile_below_iff`, `fileContent_below`: files at paths that go on from a directory.
* `isDirectory_of_locate_below`: what a path goes on from is a directory.
* `isDirectory_below_error_iff`: which entries below a directory cannot be looked at.
-/

namespace CompileService.FileTree

/-- What stands at a location below the directory that a path leads to. -/
def lookBelow (f : Folder) (dir : FilePath) (place : Location) : Option Entry :=
  match openFolder f dir with
  | .ok folder => folder.look place
  | .error _ => none

variable {f g : Folder} {dir : FilePath} {place : Location}

theorem lookBelow_of_opened (opened : openFolder f dir = .ok g) :
    lookBelow f dir place = g.look place := by
  rw [lookBelow, opened]

/-- A path leads to a directory exactly if that can be opened. -/
theorem isDirectory_iff_opened :
    isDirectory f dir = .ok true ↔ ∃ folder, openFolder f dir = .ok folder := by
  unfold isDirectory probe openFolder
  cases inspect f dir with
  | error fault =>
      cases fault with
      | system errno => cases errno <;> simp
      | embeddedNul => simp
      | unencodable u => simp
  | ok node => cases node <;> simp [isDirNode]

/-- Where there is no directory nothing stands below it. -/
theorem lookBelow_of_missing (missing : isDirectory f dir ≠ .ok true) :
    lookBelow f dir place = none := by
  unfold lookBelow
  split
  · rename_i folder opened
    exact absurd (isDirectory_iff_opened.2 ⟨folder, opened⟩) missing
  · rfl

/-- A path that goes on from a directory leads to what stands below it. -/
theorem look_of_locate_below (opened : openFolder f dir = .ok g)
    (plain : FilePath.up ∉ place) {at_ : Location}
    (found : locate f { dir with parts := dir.parts ++ place } = .ok at_) :
    f.look at_ = g.look place := by
  have led : descend f [] (dir.parts ++ place) = .ok at_ := descend_of_locate found
  obtain ⟨root, leads, here⟩ := openFolder_ok opened
  rw [descend_append, descend_of_locate leads] at led
  obtain ⟨-, rfl, -⟩ := descend_ok (show descend f root place = .ok at_ from led)
  rw [foldl_onward_plain plain, Folder.look, Folder.at?_append, here]
  rfl

/-- Where it can be told, there is a file at a path that goes on from a directory exactly if one
stands there below the directory. -/
theorem isFile_below_iff (proper : f.Proper) (opened : openFolder f dir = .ok g)
    (plain : FilePath.up ∉ place) {there : Bool}
    (asked : isFile f { dir with parts := dir.parts ++ place } = .ok there) :
    there = true ↔ g.FileAt place := by
  constructor
  · rintro rfl
    obtain ⟨at_, found, content, executable, shown⟩ := isFile_iff.1 asked
    rw [look_of_locate_below opened plain found] at shown
    exact ⟨content, executable, shown⟩
  · rintro ⟨content, executable, shown⟩
    have something : g.look place ≠ none := by simp [shown]
    rcases locate_below proper opened something with long | ⟨at_, found, same⟩
    · rw [isFile_eq, answer, long] at asked
      cases asked
    · have file := isFile_iff.2 ⟨at_, found, content, executable, same.trans shown⟩
      exact Except.ok.inj (asked.symm.trans file)

theorem fileContent_below (opened : openFolder f dir = .ok g)
    (plain : FilePath.up ∉ place) {bytes : List UInt8}
    (read : fileContent f { dir with parts := dir.parts ++ place } = .ok bytes) :
    ∃ executable, g.look place = some (.file bytes executable) := by
  obtain ⟨at_, executable, found, shown⟩ := fileContent_iff.1 read
  exact ⟨executable, (look_of_locate_below opened plain found).symm.trans shown⟩

/-- Where a path leads on from another, this one leads to a directory. -/
theorem isDirectory_of_locate_below (nonempty : place ≠ []) {at_ : Location}
    (found : locate f { dir with parts := dir.parts ++ place } = .ok at_) :
    isDirectory f dir = .ok true := by
  have led : descend f [] (dir.parts ++ place) = .ok at_ := descend_of_locate found
  rw [descend_append] at led
  cases followed : descend f [] dir.parts with
  | error errno =>
      rw [followed] at led
      cases led
  | ok reached =>
      have faultless : pathFault? dir = none := faultless_of_prefix (faultless_of_locate found)
      refine isDirectory_iff.2 ⟨reached, (locate_ok_iff faultless).2 followed, ?_⟩
      rw [followed] at led
      obtain ⟨part, more, rfl⟩ := List.exists_cons_of_ne_nil nonempty
      have first : descend f reached (part :: more) = .ok at_ := led
      rw [descend_cons] at first
      -- nothing is looked for but in a directory
      cases here : f.look reached with
      | none => simp [here] at first
      | some entry =>
          cases entry with
          | file content executable => simp [here] at first
          | dir => rfl

/-- In a proper tree an entry below a directory can be looked at unless its path is too long as a
whole. -/
theorem isDirectory_below_error_iff (proper : f.Proper) (opened : openFolder f dir = .ok g)
    (there : g.look place ≠ none) {fault : PathFault} :
    isDirectory f { dir with parts := dir.parts ++ place } = .error fault ↔
      fault = .system .nameTooLong ∧
        pathLimit < Utf8.size (FilePath.toText { dir with parts := dir.parts ++ place }) := by
  obtain ⟨root, -, -, names, clean⟩ := clean_below proper opened there
  rw [isDirectory_error_iff]
  refine and_congr_right fun _ => ⟨fun overlong => ?_, fun long => ?_⟩
  · rcases overlong.of_below (isDirectory_iff_opened.2 ⟨g, opened⟩) with whole | ⟨part, mem, long⟩
    · exact whole
    · exact absurd (names part mem).short (Nat.not_le.2 long)
  · have fault : pathFault? { dir with parts := dir.parts ++ place } = _ := pathFault?_of_clean clean
    rw [if_pos long, pathFault?_tooLong_iff] at fault
    exact ⟨fault.1, fault.2.1, .inl long⟩

end CompileService.FileTree
