import CompileService.Proofs.Service.Confinement

/-!
# What a listing says

The listing of a scope has one name for each file below the module root that a walk does not pass
over and that has the extension, and has the names in order. A module that a lookup would open in
the root of a scope is one of these files, so its name is in the listing.

* `ListedFile`: a file below the root of a scope that the listing names.
* `ModuleName.listed_place`: the file of a well-formed name is one, and the name read off it is the
  name again.
* `listing_exact`: the names of a listing, and the listing of a scope without a root.
* `loadable_listed`: modules that a lookup would open are listed.
-/

namespace CompileService

/-! ## Where a well-formed name leads -/

/-- What begins with an uppercase code point does not consist of dots. -/
theorem Listing.not_hidden_of_startsUppercase {part : Text}
    (upper : ModuleName.startsUppercase part = true) : isHidden part = false := by
  cases part with
  | nil => cases upper
  | cons c more =>
      rw [isHidden, List.all_cons, Bool.and_eq_false_iff, decide_eq_false_iff_not]
      refine .inl ?_
      rintro rfl
      have dot : (CodePoint.ofChar '.').isUppercase = true := upper
      revert dot
      decide

/-- A file at the place of a well-formed name is listed, with this name. -/
theorem ModuleName.listed_place {name ext : Text} (slash : FilePath.slash ∉ ext)
    (backslash : backslash ∉ ext) (checked : check name = true) {f : Folder}
    (file : f.FileAt (place name ext)) :
    Listing.Listed ext f (place name ext) ∧ Listing.nameOf ext (place name ext) = name := by
  obtain ⟨front, last, components, component, rfl⟩ := parts_of_check checked
  rw [place_joinWith ext components component] at file ⊢
  have upper : ∀ part ∈ front ++ [last ++ ext], startsUppercase part = true :=
    startsUppercase_file components component
  have seen : Listing.Seen (front ++ [last ++ ext]) := fun part mem =>
    Listing.not_hidden_of_startsUppercase (upper part mem)
  have extension : Listing.hasExtension ext (front ++ [last ++ ext]) = true := by
    simp [Listing.hasExtension]
  exact ⟨⟨file, seen, extension⟩, ofFile_file slash backslash components component⟩

namespace Service

variable {s : Service} {scope name : Text} {r : Response} {w v : World}

/-! ## The files that are named -/

/-- A file below the root of a scope that the listing names: none of the parts below the root
consists of dots, and the last one ends with the extension. -/
structure ListedFile (s : Service) (files : Folder) (scope : Text) (place : Location) : Prop where
  file : ∃ bytes executable, FileTree.lookBelow files (s.scopeDir scope) place =
    some (.file bytes executable)
  seen : Listing.Seen place
  extension : Listing.hasExtension s.settings.sourceExtension place = true

theorem listedFile_iff_of_opened {files folder : Folder} {place : Location}
    (opened : FileTree.openFolder files (s.scopeDir scope) = .ok folder) :
    s.ListedFile files scope place ↔ Listing.Listed s.settings.sourceExtension folder place := by
  constructor
  · rintro ⟨⟨bytes, executable, shown⟩, seen, extension⟩
    rw [FileTree.lookBelow_of_opened opened] at shown
    exact ⟨⟨bytes, executable, shown⟩, seen, extension⟩
  · rintro ⟨⟨bytes, executable, shown⟩, seen, extension⟩
    rw [← FileTree.lookBelow_of_opened opened] at shown
    exact ⟨⟨bytes, executable, shown⟩, seen, extension⟩

/-- Without a root there is nothing to name. -/
theorem not_listedFile_of_missing {files : Folder} {place : Location}
    (missing : FileTree.isDirectory files (s.scopeDir scope) ≠ .ok true) :
    ¬ s.ListedFile files scope place := by
  rintro ⟨⟨bytes, executable, shown⟩, -, -⟩
  rw [FileTree.lookBelow_of_missing missing] at shown
  cases shown

/-! ## An attic -/

/-- A directory with a module, a file that is no module, two files that are read as the same name,
and a module behind a name of dots. -/
def attic : Folder :=
  .file (lit "Notes.md") [] false (.dir (lit "....") (.file (lit "Lost.hs") [] false .empty)
    (.dir (lit "b") (.file (lit "Foo.hs") [] false .empty)
      (.dir (lit "a") (.file (lit "Foo.hs") [] false .empty)
        (.dir (lit "Demo") (.file (lit "Calc.hs") [] false .empty) .empty))))

theorem explored_attic : Explored obedientService.levels (worldWith attic).files library attic := by
  have visits : Listing.visits attic = [[lit "Demo"], [lit "Notes.md"], [lit "a"], [lit "b"],
      [lit "Demo", lit "Calc.hs"], [lit "a", lit "Foo.hs"], [lit "b", lit "Foo.hs"]] := by
    simp +decide [Listing.visits, Listing.visitsOf, Listing.looks, List.mergeSort, attic]
  exact explored_of_visits visits (by rfl) (by decide)

theorem walk_attic : Listing.walk attic = [[lit "Notes.md"], [lit "Demo", lit "Calc.hs"],
    [lit "a", lit "Foo.hs"], [lit "b", lit "Foo.hs"]] := by
  simp +decide [Listing.walk, Listing.stops, Listing.arrange, List.mergeSort, attic]

theorem names_attic :
    Listing.moduleNames (lit ".hs") attic = [lit "Demo.Calc", lit "Foo", lit "Foo"] := by
  simp +decide [Listing.moduleNames, walk_attic, List.mergeSort]

theorem run_listModules_attic :
    (obedientService.listModules (lit "library")).run (worldWith attic) =
      (.ok (.moduleList (lit "library") [lit "Demo.Calc", lit "Foo", lit "Foo"]),
        worldWith attic) :=
  run_listModules_worldWith (lit ".hs") rfl rfl explored_attic names_attic

/-! ## What is listed -/

/-- A listing with an answer has its names in order, and one for each of the files that it names. A
scope without a root lists as empty; only if it has no root because its path meets a limit is there
no answer. -/
theorem listing_exact (proper : w.files.Proper) :
    (∀ r v, (s.listModules scope).run w = (.ok r, v) →
      ∃ (names : List Text) (places : List Location), r = .moduleList scope names ∧
        names.Pairwise (· ≤ ·) ∧
        places.Nodup ∧ (∀ place, place ∈ places ↔ s.ListedFile w.files scope place) ∧
        names.Perm (places.map (Listing.nameOf s.settings.sourceExtension))) ∧
    (FileTree.isDirectory w.files (s.scopeDir scope) ≠ .ok true →
      (∃ v, (s.listModules scope).run w = (.ok (.moduleList scope []), v) ∧ v.files = w.files) ∨
        FileTree.Overlong w.files (s.scopeDir scope) ∧ (s.listModules scope).run w =
          (.error (.onPath (s.scopeDir scope) (.system .nameTooLong)), w)) := by
  refine ⟨fun r v listed => ?_, fun missing => ?_⟩
  · obtain ⟨-, ⟨none, rfl⟩ | ⟨root, folder, explored, rfl⟩⟩ := of_listModules listed
    · have missing : FileTree.isDirectory w.files (s.scopeDir scope) ≠ .ok true := by simp [none]
      refine ⟨[], [], rfl, .nil, .nil, fun place => ?_, .nil⟩
      simp [not_listedFile_of_missing missing]
    · obtain ⟨places, once, members, perm⟩ := Listing.moduleNames_perm
        s.settings.sourceExtension (FileTree.proper_of_openFolder proper explored.opened)
      refine ⟨_, places, rfl, Listing.sorted_moduleNames _ _, once, fun place => ?_, perm⟩
      rw [members, listedFile_iff_of_opened explored.opened]
  · cases asked : FileTree.isDirectory w.files (s.scopeDir scope) with
    | error fault =>
        obtain ⟨rfl, overlong⟩ := FileTree.isDirectory_error_iff.1 asked
        rw [listModules, Action.run_bind, Action.run_ask, asked]
        exact .inr ⟨overlong, rfl⟩
    | ok there =>
        cases there with
        | true => exact absurd asked missing
        | false => exact .inl (run_listModules_of_missing asked)

/-- The attic lists its three modules by their two names, and there is no project to list. -/
theorem listing_exact_attic :
    (worldWith attic).files.Proper ∧
    (∃ places : List Location, places.length = 3 ∧ places.Nodup ∧
      (∀ place, place ∈ places ↔
        obedientService.ListedFile (worldWith attic).files (lit "library") place) ∧
      [lit "Demo.Calc", lit "Foo", lit "Foo"].Perm (places.map (Listing.nameOf (lit ".hs")))) ∧
    FileTree.isDirectory (worldWith attic).files (obedientService.scopeDir (lit "project")) ≠
      .ok true ∧
    ((obedientService.listModules (lit "project")).run (worldWith attic)).1.toOption =
      some (.moduleList (lit "project") []) := by
  have proper : (worldWith attic).files.Proper := by decide
  have missing : FileTree.isDirectory (worldWith attic).files
      (obedientService.scopeDir (lit "project")) ≠ .ok true := by
    intro there
    cases there
  refine ⟨proper, ?_, missing, ?_⟩
  · obtain ⟨names, places, same, -, once, members, perm⟩ :=
      (listing_exact proper).1 _ _ run_listModules_attic
    cases same
    refine ⟨places, ?_, once, members, perm⟩
    rw [← List.length_map, ← perm.length_eq]
    rfl
  · rcases (listing_exact proper).2 missing with
      ⟨v, run, -⟩ | ⟨-, failed⟩
    · rw [run]
      rfl
    · have answered : ((obedientService.listModules (lit "project")).run
          (worldWith attic)).1.toOption.isSome := by decide +kernel
      rw [failed] at answered
      cases answered

/-- A module that a lookup would open in the root of a scope is listed, whenever the listing has an
answer. -/
theorem loadable_listed (proper : w.files.Proper)
    (slash : FilePath.slash ∉ s.settings.sourceExtension)
    (backslash : ModuleName.backslash ∉ s.settings.sourceExtension)
    (checked : ModuleName.check name = true)
    (file : FileTree.isFile w.files (s.modulePath name scope) = .ok true)
    (listed : (s.listModules scope).run w = (.ok r, v)) :
    ∃ names, r = .moduleList scope names ∧ name ∈ names := by
  obtain ⟨nonempty, plain, path⟩ := ModuleName.place_of_check slash checked
  rw [modulePath, path] at file
  obtain ⟨at_, found, -⟩ := FileTree.isFile_iff.1 file
  have root : FileTree.isDirectory w.files (s.scopeDir scope) = .ok true :=
    FileTree.isDirectory_of_locate_below nonempty found
  obtain ⟨-, ⟨none, -⟩ | ⟨-, folder, explored, rfl⟩⟩ := of_listModules listed
  · rw [root] at none
    cases none
  have inner : folder.Proper := FileTree.proper_of_openFolder proper explored.opened
  have stands : folder.FileAt (ModuleName.place name s.settings.sourceExtension) :=
    (FileTree.isFile_below_iff proper explored.opened plain file).1 rfl
  have place := ModuleName.listed_place slash backslash checked stands
  exact ⟨_, rfl, (Listing.mem_moduleNames inner).2 ⟨_, place⟩⟩

/-- The module of the attic that is in its place is listed. -/
theorem loadable_listed_attic :
    (worldWith attic).files.Proper ∧
    FilePath.slash ∉ obedientService.settings.sourceExtension ∧
    ModuleName.backslash ∉ obedientService.settings.sourceExtension ∧
    ModuleName.check (lit "Demo.Calc") = true ∧
    FileTree.isFile (worldWith attic).files
      (obedientService.modulePath (lit "Demo.Calc") (lit "library")) = .ok true ∧
    ∃ names, ((obedientService.listModules (lit "library")).run (worldWith attic)).1 =
        .ok (.moduleList (lit "library") names) ∧ lit "Demo.Calc" ∈ names := by
  have proper : (worldWith attic).files.Proper := by decide
  have slash : FilePath.slash ∉ obedientService.settings.sourceExtension := by decide
  have backslash : ModuleName.backslash ∉ obedientService.settings.sourceExtension := by decide
  have checked : ModuleName.check (lit "Demo.Calc") = true := by decide
  have file : FileTree.isFile (worldWith attic).files
      (obedientService.modulePath (lit "Demo.Calc") (lit "library")) = .ok true := by rfl
  obtain ⟨names, same, among⟩ :=
    loadable_listed proper slash backslash checked file run_listModules_attic
  refine ⟨proper, slash, backslash, checked, file, names, ?_, among⟩
  rw [run_listModules_attic, same]

end Service

end CompileService
