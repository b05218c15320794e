import CompileService.Proofs.FileTree.Leaves

/-!
# Trees that are changed in few places

An operation on a path changes a tree where the path leads; making directories adds some where
nothing was. So what stands where other paths lead stays.

* `Touched`: a tree before and after changes at some paths. `Touched.of_applyAt` and its neighbours:
  the operations.
* `Kept`: a path with the same entry in both trees. `Kept.touched`: what is not touched is kept.
* `Kept.pathExists`, `Kept.fileContent`: the answers to questions for what is kept.
-/

namespace CompileService.FileTree

/-- The tree was changed at the homes of these paths at most, and by directories that were made
where nothing was. -/
structure Touched (own : List FilePath) (f g : Folder) : Prop where
  dirs : ∀ q, f.look q = some .dir → g.look q = some .dir
  others : ∀ q, (∀ path ∈ own, path.home ≠ q) →
    g.look q = f.look q ∨ f.look q = none ∧ g.look q = some .dir

namespace Touched

variable {own : List FilePath} {f g h : Folder}

theorem refl (own : List FilePath) (f : Folder) : Touched own f f :=
  ⟨fun _ dir => dir, fun _ _ => .inl rfl⟩

theorem trans (first : Touched own f g) (second : Touched own g h) : Touched own f h where
  dirs q dir := second.dirs q (first.dirs q dir)
  others q away := by
    rcases first.others q away with same | ⟨nothing, dir⟩
    · rcases second.others q away with same' | ⟨nothing, dir⟩
      · exact .inl (same'.trans same)
      · exact .inr ⟨same ▸ nothing, dir⟩
    · exact .inr ⟨nothing, second.dirs q dir⟩

theorem of_grown (grown : f.Grown g) : Touched own f g where
  dirs _ dir := grown.dir dir
  others q _ := grown q

/-- What changes only where a path of its own leads. -/
theorem of_look {path : FilePath} (mem : path ∈ own)
    (dirs : ∀ q, f.look q = some .dir → g.look q = some .dir)
    (others : ∀ q, locate f path ≠ .ok q → g.look q = f.look q) : Touched own f g where
  dirs := dirs
  others q away := .inl (others q fun found => away path mem (home_of_locate found).symm)

theorem of_applyAt {path : FilePath} {rule : LeafRule} (mem : path ∈ own)
    (applied : rule.applyAt f path = .ok g) : Touched own f g := by
  refine of_look mem (fun q => LeafRule.dir_of_applyAt applied) fun q other => ?_
  obtain ⟨place, change, found, -, after⟩ := LeafRule.applyAt_ok applied
  rw [after, if_neg]
  rintro rfl
  exact other found

end Touched

/-! ## What is kept -/

/-- The path leads to the same place in both trees, and to the same entry. -/
def Kept (path : FilePath) (f g : Folder) : Prop :=
  ∃ place, locate f path = .ok place ∧ locate g path = .ok place ∧
    f.look place ≠ none ∧ g.look place = f.look place

theorem pathExists_iff {f : Folder} {path : FilePath} :
    pathExists f path = .ok true ↔ ∃ place, locate f path = .ok place ∧ f.look place ≠ none := by
  rw [pathExists_eq]
  constructor
  · intro there
    unfold answer at there
    split at there
    · rename_i place found
      refine ⟨place, found, fun nothing => ?_⟩
      simp [nothing] at there
    · cases there
    · cases there
  · rintro ⟨place, found, something⟩
    obtain ⟨entry, shown⟩ := Option.ne_none_iff_exists'.1 something
    rw [answer_of_locate found, shown]
    rfl

namespace Kept

variable {path : FilePath} {f g h : Folder}

theorem of_pathExists (there : FileTree.pathExists f path = .ok true) : Kept path f f := by
  obtain ⟨place, found, something⟩ := pathExists_iff.1 there
  exact ⟨place, found, found, something, rfl⟩

theorem pathExists (kept : Kept path f g) : FileTree.pathExists g path = .ok true := by
  obtain ⟨place, -, found, something, same⟩ := kept
  exact pathExists_iff.2 ⟨place, found, by rwa [same]⟩

theorem fileContent (kept : Kept path f g) :
    FileTree.fileContent g path = FileTree.fileContent f path := by
  obtain ⟨place, found, found', -, same⟩ := kept
  rw [fileContent_eq, fileContent_eq, found, found']
  dsimp only
  rw [same]

/-- An entry is kept where it is not touched. -/
theorem touched {own : List FilePath} (kept : Kept path f g)
    (touched : Touched own g h) (away : ∀ other ∈ own, other.Distinct path) : Kept path f h := by
  obtain ⟨place, found, found', something, same⟩ := kept
  refine ⟨place, found, locate_of_dirs touched.dirs found', something, ?_⟩
  have apart : ∀ other ∈ own, other.home ≠ place := by
    intro other mem
    rw [home_of_locate found]
    exact away other mem
  rcases touched.others place apart with same' | ⟨nothing, -⟩
  · exact same'.trans same
  · rw [same] at nothing
    exact absurd nothing something

end Kept

end CompileService.FileTree
