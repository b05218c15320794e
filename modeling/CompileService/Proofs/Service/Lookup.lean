import CompileService.Proofs.Module.Listing
import CompileService.Proofs.Module.Name
import CompileService.Proofs.Service.Checks
import CompileService.Service.Modules

/-!
# Looking up what is listed

A listing reads names off files, and a lookup goes from a name to its file. They agree on the files
that stand in the place of a name; a listing names other files too.

* `run_listModules`, `run_listModules_of_missing`: what is listed; `of_listModules`,
  `listModules_cases`: what a listing with an answer has looked at.
* `run_lookupIn`, `getModule_cases`: a lookup has an answer, or something stands in its way.
  `run_getModule`: where some root has the module.
* `isFile_of_listed`: a listed file in its place is where the lookup of its name looks.
* `listed_modules_load_back`: the names that are found, and those that are listed once.
-/

namespace CompileService.Service

/-! ## What a listing looks at -/

/-- All entries of a row below a directory can be looked at: none is too many levels down, and none
has a path that is refused. -/
def Shown (levels : Nat) (files : Folder) (dir : FilePath) (places : List Location) : Prop :=
  ∀ place ∈ places, place.length ≤ levels ∧
    ∃ there, FileTree.isDirectory files (below dir place) = .ok there

section
variable {levels : Nat} {dir : FilePath} {places : List Location} {w v : World}

/-- Looking at entries changes nothing. -/
theorem run_examine (shown : Shown levels w.files dir places) :
    (examine levels dir places).run w = (.ok (), w) := by
  induction places with
  | nil => rfl
  | cons place more ih =>
      obtain ⟨⟨near, there, asked⟩, rest⟩ := List.forall_mem_cons.1 shown
      rw [examine, if_neg (Nat.not_lt.2 near), Action.run_bind, Action.run_ask_of_ok w asked]
      exact ih rest

/-- What has been looked at can be looked at. -/
theorem examined (done : (examine levels dir places).run w = (.ok (), v)) :
    v = w ∧ Shown levels w.files dir places := by
  induction places with
  | nil =>
      cases done
      exact ⟨rfl, fun place mem => by cases mem⟩
  | cons place more ih =>
      rw [examine] at done
      by_cases far : levels < place.length
      · rw [if_pos far] at done
        cases done
      · rw [if_neg far, Action.run_bind] at done
        cases asked : FileTree.isDirectory w.files (below dir place) with
        | error fault =>
            rw [Action.run_ask, asked] at done
            cases done
        | ok there =>
            rw [Action.run_ask_of_ok w asked] at done
            obtain ⟨same, rest⟩ := ih done
            exact ⟨same, List.forall_mem_cons.2 ⟨⟨Nat.not_lt.1 far, there, asked⟩, rest⟩⟩

end

/-- A directory is explored: it is opened, and all that a walk visits in it can be looked at. -/
structure Explored (levels : Nat) (files : Folder) (dir : FilePath) (folder : Folder) : Prop where
  opened : FileTree.openFolder files dir = .ok folder
  shown : Shown levels files dir (Listing.visits folder)

section
variable {s : Service} {dir : FilePath} {folder : Folder} {w v : World}

theorem run_explore (explored : Explored s.levels w.files dir folder) :
    (s.explore dir).run w = (.ok folder, w) := by
  rw [explore, Action.run_bind, Action.run_ask_of_ok w explored.opened]
  dsimp only
  rw [Action.run_bind, run_examine explored.shown]
  rfl

theorem explored (done : (s.explore dir).run w = (.ok folder, v)) :
    v = w ∧ Explored s.levels w.files dir folder := by
  rw [explore, Action.run_bind] at done
  cases opened : FileTree.openFolder w.files dir with
  | error fault =>
      rw [Action.run_ask, opened] at done
      cases done
  | ok found =>
      rw [Action.run_ask_of_ok w opened] at done
      dsimp only at done
      rw [Action.run_bind] at done
      rcases visited : (examine s.levels dir (Listing.visits found)).run w with
        ⟨failure | ⟨⟩, u⟩
      · rw [visited] at done
        cases done
      · rw [visited] at done
        cases done
        obtain ⟨same, shown⟩ := examined visited
        exact ⟨same, opened, shown⟩

end

section
variable {s : Service} {scope : Text} {names : List Text} {w v : World}

/-- A root that is explored is listed. -/
theorem run_listModules {folder : Folder}
    (root : FileTree.isDirectory w.files (s.scopeDir scope) = .ok true)
    (explored : Explored s.levels w.files (s.scopeDir scope) folder) :
    (s.listModules scope).run w =
      (.ok (.moduleList scope (Listing.moduleNames s.settings.sourceExtension folder)), w) := by
  rw [listModules, Action.run_bind, Action.run_ask_of_ok w root]
  dsimp only
  rw [if_pos rfl, Action.run_bind, run_explore explored]
  rfl

/-- Without a root nothing is listed. -/
theorem run_listModules_of_missing
    (missing : FileTree.isDirectory w.files (s.scopeDir scope) = .ok false) :
    ∃ u, (s.listModules scope).run w = (.ok (.moduleList scope []), u) ∧ u.files = w.files := by
  rw [listModules, Action.run_bind, Action.run_ask_of_ok w missing]
  dsimp only
  rw [if_neg Bool.false_ne_true, Action.run_bind, Action.run_log]
  exact ⟨_, rfl, World.logged_files _ _ _ _⟩

/-- A listing with an answer: the scope has no root and nothing is listed, or the root is explored
and listed. -/
theorem of_listModules {r : Response} (listed : (s.listModules scope).run w = (.ok r, v)) :
    v.files = w.files ∧
      (FileTree.isDirectory w.files (s.scopeDir scope) = .ok false ∧ r = .moduleList scope [] ∨
        FileTree.isDirectory w.files (s.scopeDir scope) = .ok true ∧
          ∃ folder, Explored s.levels w.files (s.scopeDir scope) folder ∧
            r = .moduleList scope (Listing.moduleNames s.settings.sourceExtension folder)) := by
  cases asked : FileTree.isDirectory w.files (s.scopeDir scope) with
  | error fault =>
      rw [listModules, Action.run_bind, Action.run_ask, asked] at listed
      cases listed
  | ok there =>
      cases there with
      | false =>
          obtain ⟨u, run, kept⟩ := run_listModules_of_missing (s := s) asked
          rw [run] at listed
          cases listed
          exact ⟨kept, .inl ⟨rfl, rfl⟩⟩
      | true =>
          rw [listModules, Action.run_bind, Action.run_ask_of_ok w asked] at listed
          dsimp only at listed
          rw [if_pos rfl, Action.run_bind] at listed
          rcases walked : (s.explore (s.scopeDir scope)).run w with ⟨failure | folder, u⟩
          · rw [walked] at listed
            cases listed
          · rw [walked] at listed
            cases listed
            obtain ⟨rfl, explored⟩ := explored walked
            exact ⟨rfl, .inr ⟨rfl, folder, explored, rfl⟩⟩

/-- A listing with an answer: nothing is listed, or the root of the scope is explored. -/
theorem listModules_cases
    (listed : (s.listModules scope).run w = (.ok (.moduleList scope names), v)) :
    v.files = w.files ∧ (names = [] ∨ FileTree.isDirectory w.files (s.scopeDir scope) = .ok true ∧
      ∃ folder, Explored s.levels w.files (s.scopeDir scope) folder ∧
        names = Listing.moduleNames s.settings.sourceExtension folder) := by
  obtain ⟨kept, ⟨-, same⟩ | ⟨root, folder, explored, same⟩⟩ := of_listModules listed
  · cases same
    exact ⟨kept, .inl rfl⟩
  · cases same
    exact ⟨kept, .inr ⟨root, folder, explored, rfl⟩⟩

end

/-! ## Lookups -/

/-- A lookup does not get past a path: it cannot be told whether a file is there, or the file that
is there holds no text. -/
def Stuck (files : Folder) (path : FilePath) : Prop :=
  (∃ fault, FileTree.isFile files path = .error fault) ∨
    ∃ bytes fault, FileTree.fileContent files path = .ok bytes ∧ Utf8.decode bytes = .error fault

/-- A file is read, or its bytes are not a text. -/
theorem run_readText {path : FilePath} {w : World}
    (file : FileTree.isFile w.files path = .ok true) :
    (∃ content, (Action.readText path).run w = (.ok content, w)) ∨
      (∃ failure, (Action.readText path).run w = (.error failure, w)) ∧ Stuck w.files path := by
  obtain ⟨place, found, bytes, executable, shown⟩ := FileTree.isFile_iff.1 file
  have content : FileTree.fileContent w.files path = .ok bytes :=
    FileTree.fileContent_iff.2 ⟨place, executable, found, shown⟩
  rw [Action.readText, Action.run_bind, Action.run_ask_of_ok w content]
  dsimp only
  cases decoded : Utf8.decode bytes with
  | ok t => exact .inl ⟨_, rfl⟩
  | error fault => exact .inr ⟨⟨_, rfl⟩, .inr ⟨bytes, fault, content, decoded⟩⟩

/-- A lookup in roots has an answer, and a module if one of them has it; or it does not get past one
of them. -/
theorem run_lookupIn (name file : Text) (roots : List FilePath) (w : World) :
    (∃ r, (lookupIn name file roots).run w = (.ok r, w) ∧
      ((∃ root ∈ roots, FileTree.isFile w.files (root.join file) = .ok true) →
        ∃ content, r = .moduleFound name content)) ∨
      (∃ failure, (lookupIn name file roots).run w = (.error failure, w)) ∧
        ∃ root ∈ roots, Stuck w.files (root.join file) := by
  -- the first root that has the file, or that cannot be asked, ends the search
  induction roots with
  | nil =>
      refine .inl ⟨_, rfl, ?_⟩
      rintro ⟨root, mem, -⟩
      cases mem
  | cons root more ih =>
      rw [lookupIn, Action.run_bind]
      cases asked : FileTree.isFile w.files (root.join file) with
      | error fault =>
          rw [Action.run_ask, asked]
          exact .inr ⟨⟨_, rfl⟩, root, List.mem_cons_self, .inl ⟨fault, asked⟩⟩
      | ok here =>
          rw [Action.run_ask_of_ok w asked]
          dsimp only
          cases here with
          | true =>
              rw [if_pos rfl, Action.run_bind]
              rcases run_readText asked with ⟨content, read⟩ | ⟨⟨failure, read⟩, stuck⟩
              · rw [read]
                exact .inl ⟨_, rfl, fun _ => ⟨content, rfl⟩⟩
              · rw [read]
                exact .inr ⟨⟨failure, rfl⟩, root, List.mem_cons_self, stuck⟩
          | false =>
              rw [if_neg Bool.false_ne_true]
              rcases ih with ⟨r, run, found⟩ | ⟨failed, other, mem, stuck⟩
              · refine .inl ⟨r, run, ?_⟩
                rintro ⟨other, mem, file⟩
                rcases List.mem_cons.1 mem with rfl | rest
                · rw [asked] at file
                  cases file
                · exact found ⟨other, rest, file⟩
              · exact .inr ⟨failed, other, List.mem_cons_of_mem _ mem, stuck⟩

/-- The path that the module of a name has in the root of a scope. -/
def modulePath (s : Service) (name scope : Text) : FilePath :=
  (s.scopeDir scope).join (ModuleName.toFile name s.settings.sourceExtension)

/-- Something stands in the way of looking a name up: a module root that cannot be looked at, or a
path that a lookup does not get past. -/
def Obstructed (s : Service) (files : Folder) (name : Text) : Prop :=
  ¬ s.RootsShown files s.settings.moduleScopes ∨
    ∃ scope ∈ s.settings.moduleScopes, Stuck files (s.modulePath name scope)

/-- A lookup finds a module of the name, or it fails because something stands in its way. -/
def Loads (s : Service) (name : Text) (w : World) : Prop :=
  (∃ content, (s.getModule name).run w = (.ok (.moduleFound name content), w)) ∨
    (∃ failure, (s.getModule name).run w = (.error failure, w)) ∧ s.Obstructed w.files name

/-- A lookup has an answer, and a module if the name is well-formed and the root of some scope has
it; or something stands in its way. -/
theorem getModule_cases (s : Service) (name : Text) (w : World) :
    (∃ r, (s.getModule name).run w = (.ok r, w) ∧ (ModuleName.check name = true →
      ∀ scope ∈ s.settings.moduleScopes,
        FileTree.isDirectory w.files (s.scopeDir scope) = .ok true →
        FileTree.isFile w.files (s.modulePath name scope) = .ok true →
        ∃ content, r = .moduleFound name content)) ∨
      (∃ failure, (s.getModule name).run w = (.error failure, w)) ∧
        s.Obstructed w.files name := by
  unfold getModule
  by_cases checked : ModuleName.check name = true
  · rw [if_pos checked, Action.run_bind, roots]
    by_cases shown : s.RootsShown w.files s.settings.moduleScopes
    · rw [run_rootsOf shown]
      dsimp only
      rcases run_lookupIn name (ModuleName.toFile name s.settings.sourceExtension)
          ((s.settings.moduleScopes.filter (s.rootThere w.files)).map s.scopeDir) w with
        ⟨r, run, found⟩ | ⟨failed, dir, mem, stuck⟩
      · refine .inl ⟨r, run, fun _ scope configured root file => found ⟨_, ?_, file⟩⟩
        exact mem_roots_iff.2 ⟨scope, configured, rootThere_iff.2 root, rfl⟩
      · obtain ⟨other, configured, -, rfl⟩ := mem_roots_iff.1 mem
        exact .inr ⟨failed, .inr ⟨other, configured, stuck⟩⟩
    · obtain ⟨failure, run⟩ := run_rootsOf_of_hidden shown
      rw [run]
      exact .inr ⟨⟨failure, rfl⟩, .inl shown⟩
  · rw [if_neg checked]
    exact .inl ⟨_, rfl, fun other => absurd other checked⟩

/-- A module that the root of some scope has is not missed. -/
theorem run_getModule {s : Service} {name scope : Text} {w : World}
    (checked : ModuleName.check name = true) (configured : scope ∈ s.settings.moduleScopes)
    (root : FileTree.isDirectory w.files (s.scopeDir scope) = .ok true)
    (file : FileTree.isFile w.files (s.modulePath name scope) = .ok true) : s.Loads name w := by
  rcases s.getModule_cases name w with ⟨r, run, found⟩ | obstructed
  · obtain ⟨content, rfl⟩ := found checked scope configured root file
    exact .inl ⟨content, run⟩
  · exact .inr obstructed

/-! ## From a listing to lookups -/

section
variable {s : Service} {scope : Text} {names : List Text} {w v : World}

/-- A listed file in its place is where the lookup of its name looks. -/
theorem isFile_of_listed {files folder : Folder} {file : Location} (proper : files.Proper)
    (slash : FilePath.slash ∉ s.settings.sourceExtension)
    (backslash : ModuleName.backslash ∉ s.settings.sourceExtension)
    (explored : Explored s.levels files (s.scopeDir scope) folder)
    (listed : Listing.Listed s.settings.sourceExtension folder file)
    (inPlace : ModuleName.InPlace s.settings.sourceExtension file) :
    FileTree.isFile files
      (s.modulePath (Listing.nameOf s.settings.sourceExtension file) scope) = .ok true := by
  have inner : folder.Proper := FileTree.proper_of_openFolder proper explored.opened
  obtain ⟨-, parts, relative⟩ := inPlace.name slash backslash
  have path : s.modulePath (Listing.nameOf s.settings.sourceExtension file) scope =
      below (s.scopeDir scope) file := by
    unfold modulePath Listing.nameOf below
    rw [FilePath.join, if_pos relative, parts]
  have nonempty : file ≠ [] := by
    rintro rfl
    exact Folder.fileAt_nil folder listed.file
  obtain ⟨content, executable, shown⟩ := listed.file
  have there : folder.look file ≠ none := by
    rw [shown]
    exact Option.some_ne_none _
  rw [path]
  rcases FileTree.locate_below proper explored.opened there with long | ⟨at_, found, same⟩
  · -- the walk has looked at the file, so its path is not too long
    have visited : file ∈ Listing.visits folder :=
      (Listing.mem_visits_iff inner).2 ⟨nonempty, there, listed.seen⟩
    obtain ⟨-, answer, asked⟩ := explored.shown _ visited
    rw [FileTree.isDirectory_eq, FileTree.answer, below, long] at asked
    cases asked
  · exact FileTree.isFile_iff.2 ⟨at_, found, content, executable, same.trans shown⟩

/-- A name of the listing of a scope is read off a file. -/
def ReadOff (s : Service) (files : Folder) (scope name : Text) (file : Location) : Prop :=
  ∃ folder, FileTree.openFolder files (s.scopeDir scope) = .ok folder ∧
    Listing.Listed s.settings.sourceExtension folder file ∧
    Listing.nameOf s.settings.sourceExtension file = name

/-- Every name of a listing is read off a file. If one of its files stands in its place, a lookup
does not miss the module; if all of them do, there is only one and the name is listed once. -/
theorem listed_modules_load_back (proper : w.files.Proper)
    (configured : scope ∈ s.settings.moduleScopes)
    (slash : FilePath.slash ∉ s.settings.sourceExtension)
    (backslash : ModuleName.backslash ∉ s.settings.sourceExtension)
    (listed : (s.listModules scope).run w = (.ok (.moduleList scope names), v)) :
    ∀ name ∈ names,
      (∃ file, s.ReadOff v.files scope name file) ∧
      ((∃ file, s.ReadOff v.files scope name file ∧
        ModuleName.InPlace s.settings.sourceExtension file) → s.Loads name v) ∧
      ((∀ file, s.ReadOff v.files scope name file →
        ModuleName.InPlace s.settings.sourceExtension file) → names.count name = 1) := by
  intro name among
  obtain ⟨kept, rfl | ⟨root, folder, explored, rfl⟩⟩ := listModules_cases listed
  · cases among
  rw [kept]
  have inner : folder.Proper := FileTree.proper_of_openFolder proper explored.opened
  obtain ⟨file, named, rfl⟩ := (Listing.mem_moduleNames inner).1 among
  refine ⟨⟨file, folder, explored.opened, named, rfl⟩, ?_, fun all => ?_⟩
  · rintro ⟨other, ⟨again, opened, listed', same⟩, inPlace⟩
    obtain rfl : again = folder := Except.ok.inj (opened.symm.trans explored.opened)
    have there := isFile_of_listed proper slash backslash explored listed' inPlace
    have checked : ModuleName.check (Listing.nameOf s.settings.sourceExtension other) = true :=
      (inPlace.name slash backslash).1
    rw [same] at there checked
    rw [← kept] at root there
    exact run_getModule checked configured root there
  · refine Listing.count_moduleNames inner named fun other listed' same => ?_
    have mine := (all file ⟨folder, explored.opened, named, rfl⟩).name slash backslash
    have others := (all other ⟨folder, explored.opened, listed', same⟩).name slash backslash
    rw [Listing.nameOf, Listing.nameOf] at same
    rw [← mine.2.1, ← others.2.1, same]

end

/-! ## Shelves -/

/-- A directory with two modules in their places. -/
def shelf : Folder :=
  .dir (lit "Demo") (.file (lit "Calc.hs") [] false .empty) (.file (lit "Foo.hs") [] false .empty)

/-- A directory with files that are not in the place of a module, and one that is not a text. -/
def strays : Folder :=
  .file (lit "Bar.hs") [0xFF] false (.dir (lit "a") (.file (lit "Foo.hs") [] false .empty)
    (.dir (lit "b") (.file (lit "Foo.hs") [] false .empty) (.file (lit "foo.hs") [] false .empty)))

/-- A directory with a file whose name has a backslash. -/
def slanted : Folder := .file (lit "Foo\\x") [] false .empty

/-- A world with a directory for the library. -/
def worldWith (library : Folder) : World where
  files := .dir (lit "modules") (.dir (lit "library") library .empty) .empty

/-- The module root of the library. -/
def library : FilePath := obedientService.scopeDir (lit "library")

theorem explored_of_visits {levels : Nat} {folder : Folder} {places : List Location}
    (visits : Listing.visits folder = places)
    (opened : FileTree.openFolder (worldWith folder).files library = .ok folder)
    (shown : ∀ place ∈ places, place.length ≤ levels ∧
      (FileTree.isDirectory (worldWith folder).files (below library place)).toOption.isSome) :
    Explored levels (worldWith folder).files library folder := by
  refine ⟨opened, fun place mem => ?_⟩
  rw [visits] at mem
  obtain ⟨near, some⟩ := shown place mem
  exact ⟨near, ok_of_isSome some⟩

theorem explored_shelf : Explored obedientService.levels (worldWith shelf).files library shelf := by
  have visits : Listing.visits shelf =
      [[lit "Demo"], [lit "Foo.hs"], [lit "Demo", lit "Calc.hs"]] := by
    simp +decide [Listing.visits, Listing.visitsOf, Listing.looks, List.mergeSort, shelf]
  exact explored_of_visits visits (by rfl) (by decide)

theorem explored_strays :
    Explored obedientService.levels (worldWith strays).files library strays := by
  have visits : Listing.visits strays = [[lit "Bar.hs"], [lit "a"], [lit "b"], [lit "foo.hs"],
      [lit "a", lit "Foo.hs"], [lit "b", lit "Foo.hs"]] := by
    simp +decide [Listing.visits, Listing.visitsOf, Listing.looks, List.mergeSort, strays]
  exact explored_of_visits visits (by rfl) (by decide)

theorem explored_slanted :
    Explored obedientService.levels (worldWith slanted).files library slanted := by
  have visits : Listing.visits slanted = [[lit "Foo\\x"]] := by
    simp +decide [Listing.visits, Listing.visitsOf, Listing.looks, slanted]
  exact explored_of_visits visits (by rfl) (by decide)

theorem walk_shelf : Listing.walk shelf = [[lit "Foo.hs"], [lit "Demo", lit "Calc.hs"]] := by
  simp +decide [Listing.walk, Listing.stops, Listing.arrange, List.mergeSort, shelf]

theorem walk_strays : Listing.walk strays = [[lit "Bar.hs"], [lit "foo.hs"],
    [lit "a", lit "Foo.hs"], [lit "b", lit "Foo.hs"]] := by
  simp +decide [Listing.walk, Listing.stops, Listing.arrange, List.mergeSort, strays]

theorem walk_slanted : Listing.walk slanted = [[lit "Foo\\x"]] := by
  simp +decide [Listing.walk, Listing.stops, Listing.arrange, slanted]

theorem names_shelf : Listing.moduleNames (lit ".hs") shelf = [lit "Demo.Calc", lit "Foo"] := by
  simp +decide [Listing.moduleNames, walk_shelf, List.mergeSort]

theorem names_strays :
    Listing.moduleNames (lit ".hs") strays = [lit "Bar", lit "Foo", lit "Foo", lit "foo"] := by
  simp +decide [Listing.moduleNames, walk_strays, List.mergeSort]

theorem names_slanted : Listing.moduleNames (lit "\\x") slanted = [lit "Foo.x"] := by
  simp +decide [Listing.moduleNames, walk_slanted]

/-- What a service lists in the library. -/
theorem run_listModules_worldWith {s : Service} {folder : Folder} {names : List Text} (ext : Text)
    (dir : s.scopeDir (lit "library") = library) (extension : s.settings.sourceExtension = ext)
    (explored : Explored s.levels (worldWith folder).files library folder)
    (listed : Listing.moduleNames ext folder = names) :
    (s.listModules (lit "library")).run (worldWith folder) =
      (.ok (.moduleList (lit "library") names), worldWith folder) := by
  have root : FileTree.isDirectory (worldWith folder).files library = .ok true := rfl
  rw [← dir] at root explored
  rw [run_listModules root explored, extension, listed]

theorem run_listModules_shelf :
    (obedientService.listModules (lit "library")).run (worldWith shelf) =
      (.ok (.moduleList (lit "library") [lit "Demo.Calc", lit "Foo"]), worldWith shelf) :=
  run_listModules_worldWith (lit ".hs") rfl rfl explored_shelf names_shelf

/-- Every file that is listed on the shelf stands in its place. -/
theorem inPlace_shelf {name : Text} {file : Location}
    (read : obedientService.ReadOff (worldWith shelf).files (lit "library") name file) :
    ModuleName.InPlace (lit ".hs") file := by
  obtain ⟨folder, opened, listed, -⟩ := read
  obtain rfl : folder = shelf := Except.ok.inj (opened.symm.trans explored_shelf.opened)
  have proper : shelf.Proper := by decide
  have among : file ∈ Listing.walk shelf := (Listing.mem_walk proper).2 ⟨listed.file, listed.seen⟩
  rw [walk_shelf] at among
  rcases List.mem_pair.1 among with rfl | rfl
  · exact ⟨lit "Foo", by decide, by decide⟩
  · exact ⟨lit "Demo.Calc", by decide, by decide⟩

/-- The modules of the shelf are listed once each, and all of them are found. -/
theorem listed_modules_load_back_shelf :
    (worldWith shelf).files.Proper ∧
    lit "library" ∈ obedientService.settings.moduleScopes ∧
    FilePath.slash ∉ obedientService.settings.sourceExtension ∧
    ModuleName.backslash ∉ obedientService.settings.sourceExtension ∧
    (obedientService.listModules (lit "library")).run (worldWith shelf) =
      (.ok (.moduleList (lit "library") [lit "Demo.Calc", lit "Foo"]), worldWith shelf) ∧
    ∀ name ∈ [lit "Demo.Calc", lit "Foo"],
      (∃ content, (obedientService.getModule name).run (worldWith shelf) =
        (.ok (.moduleFound name content), worldWith shelf)) ∧
      [lit "Demo.Calc", lit "Foo"].count name = 1 := by
  have proper : (worldWith shelf).files.Proper := by decide
  have configured : lit "library" ∈ obedientService.settings.moduleScopes := by decide
  have slash : FilePath.slash ∉ obedientService.settings.sourceExtension := by decide
  have backslash : ModuleName.backslash ∉ obedientService.settings.sourceExtension := by
    decide
  refine ⟨proper, configured, slash, backslash, run_listModules_shelf, fun name mem => ?_⟩
  obtain ⟨⟨file, read⟩, loads, once⟩ :=
    listed_modules_load_back proper configured slash backslash run_listModules_shelf name mem
  have answered : ∀ name ∈ [lit "Demo.Calc", lit "Foo"],
      ((obedientService.getModule name).run (worldWith shelf)).1.toOption.isSome := by
    decide +kernel
  refine ⟨?_, once fun _ other => inPlace_shelf other⟩
  rcases loads ⟨file, read, inPlace_shelf read⟩ with found | ⟨⟨failure, failed⟩, -⟩
  · exact found
  · have some := answered name mem
    rw [failed] at some
    cases some

/-- A service whose first scope is too long for a name. -/
def crampedService : Service :=
  { obedientService with
    settings := { moduleScopes := [List.replicate 256 (CodePoint.ofChar 'x'), lit "library"] } }

/-- A service whose extension has a backslash. -/
def slantedService : Service :=
  { obedientService with settings := { sourceExtension := lit "\\x" } }

/-- Names that are listed and not found: those of files that are not in their place, which can also
be listed twice, of a file that is not a text, behind a root that cannot be looked at, and with an
extension that is taken for a part of the path. -/
theorem listed_names_not_found :
    ((obedientService.listModules (lit "library")).run (worldWith strays) =
        (.ok (.moduleList (lit "library") [lit "Bar", lit "Foo", lit "Foo", lit "foo"]),
          worldWith strays) ∧
      ((obedientService.getModule (lit "foo")).run (worldWith strays)).1.toOption =
        some (.moduleNotFound (lit "foo")) ∧
      ((obedientService.getModule (lit "Foo")).run (worldWith strays)).1.toOption =
        some (.moduleNotFound (lit "Foo")) ∧
      ((obedientService.getModule (lit "Bar")).run (worldWith strays)).1.toOption = none) ∧
    ((crampedService.listModules (lit "library")).run (worldWith shelf) =
        (.ok (.moduleList (lit "library") [lit "Demo.Calc", lit "Foo"]), worldWith shelf) ∧
      ((crampedService.getModule (lit "Foo")).run (worldWith shelf)).1.toOption = none) ∧
    (slantedService.listModules (lit "library")).run (worldWith slanted) =
        (.ok (.moduleList (lit "library") [lit "Foo.x"]), worldWith slanted) ∧
      ((slantedService.getModule (lit "Foo.x")).run (worldWith slanted)).1.toOption =
        some (.moduleNotFound (lit "Foo.x")) := by
  refine ⟨⟨?_, ?_, ?_, ?_⟩, ⟨?_, ?_⟩, ?_, ?_⟩
  · exact run_listModules_worldWith (lit ".hs") rfl rfl explored_strays names_strays
  · rfl
  · rfl
  · decide +kernel
  · exact run_listModules_worldWith (lit ".hs") rfl rfl explored_shelf names_shelf
  · decide +kernel
  · exact run_listModules_worldWith (lit "\\x") rfl rfl explored_slanted names_slanted
  · rfl

end CompileService.Service
