import CompileService.Proofs.FileTree.Leaves

/-!
# Changes within bounds

How far a change of a tree reaches, place by place.

* `FilePath.OnWay`: the places at which making a directory may put one. `onWay_of_makeDirs`: it does
  so nowhere else, also where the path leads up and down again.
* `ChangedWithin`: a tree changed at the homes of some paths, and by directories in given places.
* `AllBut`: a tree that shows what another one does, but for one place without a directory.
  `AllBut.dropped`: once its file is removed there is no difference left.
-/

namespace CompileService

/-- A place on the way to a directory: where a front part of its path leads. -/
def FilePath.OnWay (dir : FilePath) (q : Location) : Prop :=
  ∃ front, front <+: dir.parts ∧ { dir with parts := front }.home = q

namespace FilePath

theorem OnWay.longer {anchor : Anchor} {front parts : List Text} {q : Location}
    (way : OnWay ⟨anchor, front⟩ q) (before : front <+: parts) : OnWay ⟨anchor, parts⟩ q := by
  obtain ⟨first, inside, leads⟩ := way
  exact ⟨first, inside.trans before, leads⟩

/-- On a way that does not lead up lie the places above the directory, and its own. -/
theorem OnWay.prefix_home {dir : FilePath} {q : Location} (way : dir.OnWay q)
    (plain : up ∉ dir.parts) : q <+: dir.home := by
  obtain ⟨front, before, rfl⟩ := way
  have plain' : up ∉ front := fun mem => plain (before.subset mem)
  rw [FileTree.home_of_plain plain, FileTree.home_of_plain plain']
  exact before

end FilePath

namespace FileTree

/-! ## Directories on the way -/

/-- A directory is made at the home of its path. -/
theorem home_of_makeDir {f g : Folder} {path : FilePath} {q : Location}
    (made : makeDir f path = .ok g) (changed : g.look q ≠ f.look q) : path.home = q := by
  rw [makeDir_eq] at made
  obtain ⟨place, change, found, result, after⟩ := LeafRule.applyAt_ok made
  obtain rfl : q = place := by
    by_cases here : q = place
    · exact here
    · exact absurd (by rw [after, if_neg here]) changed
  exact (home_of_locate found).symm

theorem onWay_of_makeDir {f g : Folder} {path : FilePath} {q : Location}
    (made : makeDir f path = .ok g) (changed : g.look q ≠ f.look q) : path.OnWay q :=
  ⟨path.parts, List.prefix_refl _, home_of_makeDir made changed⟩

theorem onWay_of_makeDirsOf (f : Folder) (anchor : Anchor) (parts : List Text) {q : Location}
    (changed : (makeDirsOf f anchor parts).1.look q ≠ f.look q) :
    FilePath.OnWay ⟨anchor, parts.reverse⟩ q := by
  induction parts with
  | nil =>
      unfold makeDirsOf at changed
      dsimp only at changed
      split at changed
      · exact onWay_of_makeDir ‹_› changed
      · exact absurd rfl changed
      · exact absurd rfl changed
  | cons part above ih =>
      have before : above.reverse <+: (part :: above).reverse := by
        rw [List.reverse_cons]
        exact List.prefix_append _ _
      unfold makeDirsOf at changed
      dsimp only at changed
      split at changed
      · exact onWay_of_makeDir ‹_› changed
      · -- the directory above was made first: the place is on the way to it, or is the last one
        rcases made : makeDirsOf f anchor above with ⟨g, _ | fault⟩
        · rw [made] at ih changed
          dsimp only at ih changed
          by_cases same : g.look q = f.look q
          · rw [← same] at changed
            split at changed
            · exact onWay_of_makeDir ‹_› changed
            · exact absurd rfl changed
            · exact absurd rfl changed
          · exact (ih same).longer before
        · rw [made] at ih changed
          exact (ih changed).longer before
      · exact absurd rfl changed

/-- Making directories changes nothing but places on the way. -/
theorem onWay_of_makeDirs {f : Folder} {path : FilePath} {q : Location}
    (changed : (makeDirs f path).1.look q ≠ f.look q) : path.OnWay q := by
  have way := onWay_of_makeDirsOf f path.anchor path.parts.reverse changed
  rwa [List.reverse_reverse] at way

/-! ## Bounds -/

/-- The trees differ at the homes of these paths at most, and by directories that were made on the
way. -/
def ChangedWithin (own : List FilePath) (way : Location → Prop) (f g : Folder) : Prop :=
  ∀ q, g.look q = f.look q ∨ (∃ path ∈ own, path.home = q) ∨
    way q ∧ f.look q = none ∧ g.look q = some .dir

namespace ChangedWithin

variable {own : List FilePath} {way : Location → Prop} {f g h : Folder}

theorem refl (own : List FilePath) (way : Location → Prop) (f : Folder) :
    ChangedWithin own way f f := fun _ => .inl rfl

theorem trans (first : ChangedWithin own way f g) (second : ChangedWithin own way g h) :
    ChangedWithin own way f h := by
  intro q
  rcases first q with same | mine | ⟨on, nothing, dir⟩
  · rw [← same]
    exact second q
  · exact .inr (.inl mine)
  · -- a directory that the first change made is there for the second one
    rcases second q with same | mine | ⟨-, nothing', -⟩
    · exact .inr (.inr ⟨on, nothing, same.trans dir⟩)
    · exact .inr (.inl mine)
    · rw [dir] at nothing'
      cases nothing'

/-- What changes only where a path of its own leads. -/
theorem of_look {path : FilePath} (mem : path ∈ own)
    (others : ∀ q, locate f path ≠ .ok q → g.look q = f.look q) : ChangedWithin own way f g := by
  intro q
  by_cases found : locate f path = .ok q
  · exact .inr (.inl ⟨path, mem, (home_of_locate found).symm⟩)
  · exact .inl (others q found)

theorem of_applyAt {path : FilePath} {rule : LeafRule} (mem : path ∈ own)
    (applied : rule.applyAt f path = .ok g) : ChangedWithin own way f g := by
  refine of_look mem fun q other => ?_
  obtain ⟨place, change, found, -, after⟩ := LeafRule.applyAt_ok applied
  rw [after, if_neg]
  rintro rfl
  exact other found

theorem makeDirs {dir : FilePath} (on : ∀ q, dir.OnWay q → way q) (f : Folder) :
    ChangedWithin own way f (makeDirs f dir).1 := by
  intro q
  rcases makeDirs_grown f dir q with same | ⟨nothing, made⟩
  · exact .inl same
  · have changed : (FileTree.makeDirs f dir).1.look q ≠ f.look q := by simp [made, nothing]
    exact .inr (.inr ⟨on q (onWay_of_makeDirs changed), nothing, made⟩)

end ChangedWithin

/-! ## One file -/

/-- The trees show the same everywhere but at one place, at which neither has a directory. -/
structure AllBut (place : Location) (f g : Folder) : Prop where
  left : f.look place ≠ some .dir
  right : g.look place ≠ some .dir
  others : ∀ q, q ≠ place → g.look q = f.look q

namespace AllBut

variable {place : Location} {f g h : Folder} {path : FilePath}

theorem congr (near : AllBut place f g) (same : ∀ q, h.look q = g.look q) : AllBut place f h :=
  ⟨near.left, by rw [same]; exact near.right, fun q other => (same q).trans (near.others q other)⟩

theorem sameDirs (near : AllBut place f g) : SameDirs f g := by
  intro q
  by_cases here : q = place
  · rw [here]
    exact ⟨fun dir => absurd dir near.left, fun dir => absurd dir near.right⟩
  · rw [near.others q here]

/-- A file is created where nothing is, and nothing else changes. -/
theorem of_created (created : createFile f path = .ok g) :
    ∃ place, FileTree.locate f path = .ok place ∧ f.look place = none ∧ AllBut place f g := by
  rw [createFile_eq] at created
  obtain ⟨place, change, found, result, after⟩ := LeafRule.applyAt_ok created
  cases old : f.look place with
  | some entry => simp [LeafRule.create, old] at result
  | none =>
      simp only [LeafRule.create, old, Except.ok.injEq] at result
      subst result
      refine ⟨place, found, old, by simp [old], by simp [after, Node.entry], fun q other => ?_⟩
      rw [after, if_neg other]

/-- A path goes on leading to the place, and to nowhere else. -/
theorem locate (near : AllBut place f g) (led : FileTree.locate f path = .ok place) :
    FileTree.locate g path = .ok place :=
  near.sameDirs.locate led

/-- A file that is stored at the place changes nothing else. -/
theorem stored {content : List UInt8} (near : AllBut place f g)
    (led : FileTree.locate f path = .ok place) (stored : storeFile g path content = .ok h) :
    AllBut place f h := by
  obtain ⟨there, executable, found, after⟩ := look_storeFile stored
  obtain rfl : there = place := Except.ok.inj (found.symm.trans (near.locate led))
  refine ⟨near.left, by simp [after], fun q other => ?_⟩
  rw [after, if_neg other, near.others q other]

/-- Once the file at the place is removed, the tree shows what the first one does, if nothing stood
there. -/
theorem dropped (near : AllBut place f g) (led : FileTree.locate f path = .ok place)
    (nothing : f.look place = none)
    (gone : dropFile g path = .ok h ∨ (∃ fault, dropFile g path = .error fault) ∧ h = g)
    (q : Location) : h.look q = f.look q := by
  have found := near.locate led
  by_cases here : q = place
  · subst here
    rw [nothing]
    rcases gone with dropped | ⟨⟨fault, refused⟩, rfl⟩
    · obtain ⟨there, found', after⟩ := look_dropFile dropped
      obtain rfl : there = q := Except.ok.inj (found'.symm.trans found)
      rw [after, if_pos rfl]
    · -- a file that is there can be removed, so a refusal means that there is none
      cases shown : h.look q with
      | none => rfl
      | some entry =>
          cases entry with
          | dir => exact absurd shown near.right
          | file content executable =>
              rw [dropFile_eq, LeafRule.applyAt_of_locate found, shown] at refused
              cases refused
  · rw [← near.others q here]
    rcases gone with dropped | ⟨-, rfl⟩
    · obtain ⟨there, found', after⟩ := look_dropFile dropped
      obtain rfl : there = place := Except.ok.inj (found'.symm.trans found)
      rw [after, if_neg here]
    · rfl

end AllBut

end FileTree

end CompileService
