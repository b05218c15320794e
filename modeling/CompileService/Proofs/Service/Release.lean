import CompileService.Proofs.Service.Checks
import CompileService.Proofs.Service.Leftovers
import CompileService.Service.Commands

/-!
# The source of a compilation is released

The cleanup of a compilation deletes the source however the toolchain ends. It guards what follows
the directory of public files: a compilation that cannot make this directory ends before.

* `run_compileModule`: a compilation that has come this far: the body, the cleanup and the answer.
  `run_compileModule_of_refused`: one that ends before.
* `emitPreview_cases`, `compileAnswer_files`: after the cleanup at most the page is written.
* `compileModule_source_iff`: exactly when a file is left at the path of the source.
-/

namespace CompileService.Service

variable {s : Service} {w v : World} {artifact : Artifact} (content : Text)

/-! ## The ways through a compilation -/

theorem run_makeDirs (path : FilePath) (w : World) :
    (Action.makeDirs path).run w =
      ((match (FileTree.makeDirs w.files path).2 with
        | none => .ok ()
        | some (at_, fault) => .error (.onPath at_ fault)),
        { w with files := (FileTree.makeDirs w.files path).1 }) := by
  unfold Action.run Action.makeDirs
  rcases FileTree.makeDirs w.files path with ⟨files, _ | ⟨at_, fault⟩⟩ <;> rfl

theorem run_makeDirs_readied (path source : FilePath) (w : World) (files : Folder) :
    (Action.makeDirs path).run (s.readied w source files) =
      ((match (FileTree.makeDirs files path).2 with
        | none => .ok ()
        | some (at_, fault) => .error (.onPath at_ fault)),
        s.readied w source (FileTree.makeDirs files path).1) :=
  run_makeDirs path (s.readied w source files)

theorem run_compileModule_of_refused
    (made : (s.newArtifact s.settings.sourceExtension).run w = (.ok artifact, v))
    {at_ : FilePath} {fault : PathFault}
    (refused : (FileTree.makeDirs v.files s.genDir).2 = some (at_, fault)) :
    (s.compileModule content).run w = (.error (.onPath at_ fault),
      s.readied v artifact.path (FileTree.makeDirs v.files s.genDir).1) := by
  unfold compileModule ensureDirs
  rw [Action.run_bind, made]
  dsimp only
  rw [Action.run_bind, s.run_scheduleDelete]
  dsimp only
  rw [Action.run_bind, run_makeDirs_readied, refused]

/-- A compilation whose directory is there: the toolchain runs on the source, the source is deleted
and the deletion of the script scheduled, and then the request is answered. -/
theorem run_compileModule
    (made : (s.newArtifact s.settings.sourceExtension).run w = (.ok artifact, v))
    (dirs : (FileTree.makeDirs v.files s.genDir).2 = none) :
    let out := s.generatedPath artifact.id (lit ".js")
    let body := (s.compileArtifact artifact out content).run
      (s.readied v artifact.path (FileTree.makeDirs v.files s.genDir).1)
    ∃ x, Deleted artifact.path body.2 x ∧
      (s.compileModule content).run w =
        match body.1 with
        | .error failure => (.error failure, s.readied x out x.files)
        | .ok (.inl answer) => (.ok answer, s.readied x out x.files)
        | .ok (.inr result) =>
          (s.compileAnswer artifact.id out.name result).run (s.readied x out x.files) := by
  obtain ⟨place, led, -⟩ := (fresh_of_newArtifact made).there
  unfold compileModule ensureDirs
  rw [Action.run_bind, made]
  dsimp only
  rw [Action.run_bind, s.run_scheduleDelete]
  dsimp only
  rw [Action.run_bind, run_makeDirs_readied, dirs]
  dsimp only
  rw [Action.run_bind, Action.run_guarded]
  generalize (s.compileArtifact artifact _ content).run _ = body
  rcases body with ⟨r, u⟩
  -- the cleanup does not fail: the path of the source has led to a place
  have deleted := ok_delete led u
  refine ⟨((delete artifact.path).run u).2, deleted_delete artifact.path u, ?_⟩
  rw [Action.run_bind]
  dsimp only
  rcases deleting : (delete artifact.path).run u with ⟨c, x⟩
  rw [deleting] at deleted
  obtain rfl : c = .ok () := deleted
  dsimp only
  rw [s.run_scheduleDelete]
  rcases r with failure | (answer | result)
  · rfl
  · rfl
  · rfl

/-! ## The page -/

/-- The page of a script. -/
def pageText (s : Service) (script : Text) : Text :=
  Preview.render script s.settings.previewStylesheets s.settings.previewScripts

/-- The page is written and its deletion scheduled, or there is a failure and at most its file has
changed. -/
theorem emitPreview_cases (s : Service) (id script : Text) (w : World) :
    let path := s.generatedPath id (lit ".html")
    (∃ bytes files, Utf8.encode (s.pageText script) = .ok bytes ∧
        FileTree.storeFile w.files path bytes = .ok files ∧
        (s.emitPreview id script).run w = (.ok path, s.readied w path files)) ∨
      ∃ failure files,
        (s.emitPreview id script).run w = (.error failure, { w with files := files }) ∧
        (files = w.files ∨ ∃ bytes, FileTree.storeFile w.files path bytes = .ok files) := by
  dsimp only
  unfold emitPreview Action.writeText
  generalize s.generatedPath id (lit ".html") = path
  rw [← pageText]
  rw [Action.run_bind]
  cases encoded : Utf8.encode (s.pageText script) with
  | ok bytes =>
      rw [Action.run_change]
      cases stored : FileTree.storeFile w.files path bytes with
      | error fault => exact .inr ⟨_, _, rfl, .inl rfl⟩
      | ok files =>
          refine .inl ⟨bytes, files, rfl, stored, ?_⟩
          dsimp only
          rw [Action.run_bind, s.run_scheduleDelete]
          rfl
  | error fault =>
      dsimp only
      rw [Action.run_bind, Action.run_change]
      cases stored : FileTree.storeFile w.files path [] with
      | error refused => exact .inr ⟨_, _, rfl, .inl rfl⟩
      | ok files => exact .inr ⟨_, _, rfl, .inr ⟨[], stored⟩⟩

/-- An answer changes no file but that of the page. -/
theorem compileAnswer_files (s : Service) (id script : Text) (result : ToolchainResult)
    (w : World) :
    let after := ((s.compileAnswer id script result).run w).2.files
    after = w.files ∨
      ∃ bytes, FileTree.storeFile w.files (s.generatedPath id (lit ".html")) bytes = .ok after := by
  rcases result with ⟨status, output⟩
  cases status with
  | unavailable => exact .inl rfl
  | failed => exact .inl (World.logged_files _ _ _ _)
  | ok =>
      unfold compileAnswer
      dsimp only
      rw [Action.run_bind]
      rcases s.emitPreview_cases id script w with
        ⟨bytes, files, -, stored, run⟩ | ⟨failure, files, run, written⟩
      · rw [run]
        refine .inr ⟨bytes, stored.trans (congrArg Except.ok ?_)⟩
        exact (World.logged_files (s.readied w _ files) _ _ _).symm
      · rw [run]
        exact written

/-! ## What is left of the source -/

/-- A file at a path that led to none before another file was written is that file. -/
theorem locate_of_storeFile {f g : Folder} {path other : FilePath} {bytes : List UInt8}
    {place : Location} (none : FileTree.isFile f path ≠ .ok true)
    (stored : FileTree.storeFile f other bytes = .ok g)
    (found : FileTree.locate g path = .ok place) (file : g.FileAt place) :
    FileTree.locate g other = .ok place := by
  have dirs := FileTree.sameDirs_storeFile stored
  obtain ⟨there, executable, led, after⟩ := FileTree.look_storeFile stored
  by_cases here : place = there
  · rw [here]
    exact dirs.locate led
  · unfold Folder.FileAt at file
    rw [after, if_neg here] at file
    exact absurd (FileTree.isFile_iff.2 ⟨place, dirs.symm.locate found, file⟩) none

/-- Where the directory of public files is there, a file that is left at the path of the source is
the page. -/
theorem page_of_source_left
    (made : (s.newArtifact s.settings.sourceExtension).run w = (.ok artifact, v))
    (dirs : (FileTree.makeDirs v.files s.genDir).2 = none) {after : Folder}
    (ended : ((s.compileModule content).run w).2.files = after)
    (left : FileTree.isFile after artifact.path = .ok true) :
    ∃ place, FileTree.locate after artifact.path = .ok place ∧
      FileTree.locate after (s.generatedPath artifact.id (lit ".html")) = .ok place ∧
      after.FileAt place := by
  obtain ⟨x, deleted, run⟩ := run_compileModule content made dirs
  have gone := FileTree.not_isFile_of_dropFile deleted.files
  -- after the cleanup there is no file, and at most the page is written then
  have written : after = x.files ∨ ∃ bytes, FileTree.storeFile x.files
      (s.generatedPath artifact.id (lit ".html")) bytes = .ok after := by
    rw [← ended, run]
    split
    · exact .inl rfl
    · exact .inl rfl
    · exact s.compileAnswer_files _ _ _ (s.readied x _ x.files)
  rcases written with same | ⟨bytes, stored⟩
  · exact absurd (same ▸ left) gone
  · obtain ⟨place, found, file⟩ := FileTree.isFile_iff.1 left
    exact ⟨place, found, locate_of_storeFile gone stored found file, file⟩

/-- Where the directory of public files cannot be made, the source is left. -/
theorem source_left
    (made : (s.newArtifact s.settings.sourceExtension).run w = (.ok artifact, v))
    (refused : (FileTree.makeDirs v.files s.genDir).2 ≠ none) :
    FileTree.isFile ((s.compileModule content).run w).2.files artifact.path = .ok true := by
  obtain ⟨⟨at_, fault⟩, met⟩ := Option.ne_none_iff_exists'.1 refused
  rw [run_compileModule_of_refused content made met]
  exact ((fresh_of_newArtifact made).grown (FileTree.makeDirs_grown _ _)).isFile

/-- Without an artifact a compilation fails, and changes no file. -/
theorem compileModule_of_unmade {failure : Failure}
    (unmade : (s.newArtifact s.settings.sourceExtension).run w = (.error failure, v)) :
    (s.compileModule content).run w = (.error failure, v) ∧ v.files = w.files := by
  constructor
  · unfold compileModule
    rw [Action.run_bind, unmade]
  · obtain ⟨_, _, -, rfl⟩ := s.waited_of_unmade unmade
    rfl

/-- What a compilation leaves at the path of its source. Without an artifact it changes no file.
With one, however the request ends, there is a file at this path afterwards in two cases: the
directory of public files cannot be made, or the page was written to the place of the source. -/
theorem compileModule_source_iff (s : Service) (w : World) (content : Text) :
    let after := ((s.compileModule content).run w).2.files
    (∀ failure v, (s.newArtifact s.settings.sourceExtension).run w = (.error failure, v) →
      after = w.files) ∧
    ∀ artifact v, (s.newArtifact s.settings.sourceExtension).run w = (.ok artifact, v) →
      (FileTree.isFile after artifact.path = .ok true ↔
        (FileTree.makeDirs v.files s.genDir).2 ≠ none ∨
        ∃ place, FileTree.locate after artifact.path = .ok place ∧
          FileTree.locate after (s.generatedPath artifact.id (lit ".html")) = .ok place ∧
          after.FileAt place) := by
  intro after
  refine ⟨fun failure v unmade => ?_, fun artifact v made => ?_⟩
  · obtain ⟨run, same⟩ := compileModule_of_unmade content unmade
    rw [← same]
    exact congrArg (·.2.files) run
  · constructor
    · intro left
      by_cases dirs : (FileTree.makeDirs v.files s.genDir).2 = none
      · exact .inr (page_of_source_left content made dirs rfl left)
      · exact .inl dirs
    · rintro (refused | ⟨place, found, -, file⟩)
      · exact source_left content made refused
      · exact FileTree.isFile_iff.2 ⟨place, found, file⟩

/-! ## A file in the way -/

/-- A world in which a file keeps the directory of public files from being made. -/
def clutteredWorld : World where
  files := .file (lit "static") [] false (.dir (lit "tmp") .empty .empty)

/-- The first artifact of a service that counts its identifiers. -/
def firstArtifact : Artifact :=
  ⟨(Uuid.ofNat 1).toText, obedientService.tempPath (Uuid.ofNat 1).toText (lit ".hs")⟩

theorem made_of_answer {ext : Text} (answer : ((s.newArtifact ext).run w).1 = .ok artifact) :
    ∃ v, (s.newArtifact ext).run w = (.ok artifact, v) :=
  ⟨((s.newArtifact ext).run w).2, Prod.ext answer rfl⟩

theorem made_emptyWorld :
    ∃ v, (obedientService.newArtifact (lit ".hs")).run emptyWorld = (.ok firstArtifact, v) :=
  made_of_answer (by rfl)

theorem made_clutteredWorld :
    ∃ v, (obedientService.newArtifact (lit ".hs")).run clutteredWorld = (.ok firstArtifact, v) :=
  made_of_answer (by rfl)

/-- With the directory of public files there the source is gone, and with a file in its way the
source is left. -/
theorem compileModule_source_iff_obedient :
    (∃ v, (obedientService.newArtifact (lit ".hs")).run emptyWorld = (.ok firstArtifact, v) ∧
      FileTree.isFile ((obedientService.compileModule (lit "main")).run emptyWorld).2.files
        firstArtifact.path ≠ .ok true) ∧
    ∃ v, (obedientService.newArtifact (lit ".hs")).run clutteredWorld = (.ok firstArtifact, v) ∧
      FileTree.isFile ((obedientService.compileModule (lit "main")).run clutteredWorld).2.files
        firstArtifact.path = .ok true := by
  constructor
  · obtain ⟨v, made⟩ := made_emptyWorld
    refine ⟨v, made, fun left => ?_⟩
    have meaning := compileModule_source_iff obedientService emptyWorld (lit "main")
    rcases (meaning.2 _ _ made).1 left with refused | ⟨place, source, page, -⟩
    · have dirs : (FileTree.makeDirs ((obedientService.newArtifact (lit ".hs")).run
          emptyWorld).2.files obedientService.genDir).2 = none := by rfl
      rw [made] at dirs
      exact refused dirs
    · have apart : firstArtifact.path.home ≠
          (obedientService.generatedPath firstArtifact.id (lit ".html")).home := by decide
      exact FileTree.ne_of_distinct apart source page rfl
  · obtain ⟨v, made⟩ := made_clutteredWorld
    have refused : (FileTree.makeDirs ((obedientService.newArtifact (lit ".hs")).run
        clutteredWorld).2.files obedientService.genDir).2 ≠ none := by decide
    rw [made] at refused
    exact ⟨v, made,
      ((compileModule_source_iff obedientService clutteredWorld (lit "main")).2 _ _ made).2
        (.inl refused)⟩

/-- The fault on a path that made a request fail. -/
def pathFault? {α : Type} : Except Failure α → Option (FilePath × PathFault)
  | .error (.onPath path fault) => some (path, fault)
  | _ => none

/-- With a file in the way of the directory of public files a compilation fails, and the source that
it created is still there: only the deletion scheduled for it is pending. -/
theorem source_left_behind :
    ∃ v, (obedientService.newArtifact (lit ".hs")).run clutteredWorld = (.ok firstArtifact, v) ∧
      pathFault? ((obedientService.compileModule (lit "main")).run clutteredWorld).1 =
        some (obedientService.genDir, .system .notDirectory) ∧
      FileTree.isFile clutteredWorld.files firstArtifact.path = .ok false ∧
      FileTree.isFile ((obedientService.compileModule (lit "main")).run clutteredWorld).2.files
        firstArtifact.path = .ok true ∧
      ((obedientService.compileModule (lit "main")).run clutteredWorld).2.timers =
        [⟨firstArtifact.path, some 5⟩] := by
  obtain ⟨v, made⟩ := made_clutteredWorld
  refine ⟨v, made, ?_, ?_, ?_, ?_⟩
  · rfl
  · rfl
  · rfl
  · decide +kernel

end CompileService.Service
