import CompileService.Proofs.FileTree.Within
import CompileService.Proofs.Service.Lifetime

/-!
# What each command leaves alone

A command changes what it is for and nothing else, in whichever way it ends.

* `WritesScript`: processes that write no more than the script of a compilation.
* `Reached.within`: a request changes its own files, and a compilation the way to the directory of
  public files.
* `checkModule_frame`: a type check leaves the tree as it was, and one deletion, of its source.
* `Outside`: directories that lie outside the modules. `modulesKept_after`: then no run changes
  anything below the directory of modules.
* `dispatch_frame`: every command in these terms.
-/

namespace CompileService.Service

variable {s : Service} {kind : Request.Kind} {u : Uuid} {v w after : World}

/-- Processes write what they are told to: one of a type check nothing, and one of a compilation
what stands where the path after `-o` leads. -/
structure WritesScript (s : Service) : Prop where
  check : ∀ n u dirs files q,
    (s.runner n (s.checkLaunchOn u dirs) files).2.look q = files.look q
  compile : ∀ n u files q, FileTree.locate files (s.scriptPath u) ≠ .ok q →
    (s.runner n (s.compileLaunch u) files).2.look q = files.look q

theorem OutputOnly.writesScript (output : s.OutputOnly) : s.WritesScript :=
  ⟨output.check, output.compile⟩

/-! ## Requests -/

/-- The places where directories may appear: for a compilation those on the way to the directory of
public files. -/
def MayAppear (s : Service) (kind : Request.Kind) (q : Location) : Prop :=
  kind = .compile ∧ s.genDir.OnWay q

/-- The second tree is the first one but for a request's own files and the directories it makes. -/
abbrev RequestWithin (s : Service) (kind : Request.Kind) (u : Uuid) (f g : Folder) : Prop :=
  FileTree.ChangedWithin (s.ownPaths u kind) (s.MayAppear kind) f g

theorem WritesScript.within (writes : s.WritesScript) (n : Nat) {launch : Launch}
    (own : s.Launches u kind launch) (files : Folder) :
    s.RequestWithin kind u files (s.runner n launch files).2 := by
  cases kind with
  | check =>
      obtain ⟨dirs, rfl⟩ := own
      exact fun q => .inl (writes.check n u dirs files q)
  | compile =>
      obtain rfl := own
      have script : s.scriptPath u ∈ s.ownPaths u .compile := by simp [ownPaths]
      exact .of_look script (writes.compile n u files)

theorem Effect.within (writes : s.WritesScript) (effect : s.Effect kind u v w) :
    s.RequestWithin kind u v.files w.files := by
  cases effect with
  | logged level source message =>
      rw [World.logged_files]
      exact .refl _ _ _
  | changed own applied => exact .of_applyAt own applied
  | scheduled own => exact .refl _ _ _
  | madeDirs compiling => exact .makeDirs (fun q way => ⟨compiling, way⟩) _
  | started own => exact writes.within _ own _

theorem Reached.within (writes : s.WritesScript) (reached : s.Reached kind u v w) :
    s.RequestWithin kind u v.files w.files := by
  induction reached with
  | refl => exact .refl _ _ _
  | tail _ effect ih => exact ih.trans (effect.within writes)

/-- The request has its artifact, with this identifier. -/
def HasArtifact (s : Service) (w : World) (u : Uuid) : Prop :=
  ∃ x, (s.newArtifact s.settings.sourceExtension).run w = (.ok ⟨u.toText, s.sourcePath u⟩, x)

/-- A request without an artifact changes no file, and one with an artifact its own at most. -/
theorem Effected.within (writes : s.WritesScript) (effected : s.Effected kind w after) :
    after.files = w.files ∨
      ∃ u, s.HasArtifact w u ∧ s.RequestWithin kind u w.files after.files := by
  rcases effected with ⟨failure, -, _, _, -, rfl⟩ | ⟨u, v, x, run, ⟨_, _, -, rfl⟩, -, reached⟩
  · exact .inl rfl
  · have within := reached.within writes
    exact .inr ⟨u, ⟨x, run⟩, within⟩

/-! ## Type checks -/

/-- The deletions that are pending after a type check: one more if there is an artifact. -/
def OneDeletion (s : Service) (w after : World) : Prop :=
  (∀ u, ¬ s.HasArtifact w u) ∧ after.timers = w.timers ∨
    ∃ u, s.HasArtifact w u ∧ after.timers = w.timers ++ [⟨s.sourcePath u, s.expiry w.clock⟩]

/-- The deletions are these, and the tree is the first one but for a file at the place. -/
def Scratch (timers : List Timer) (place : Location) (f : Folder) (w : World) : Prop :=
  w.timers = timers ∧ FileTree.AllBut place f w.files

theorem unlogged_scratch {timers : List Timer} {place : Location} {f : Folder} :
    Toolchain.Unlogged (Scratch timers place f) := by
  intro w level source message scratch
  rw [Scratch, World.logged_timers, World.logged_files]
  exact scratch

/-- Type checking a source works on the file of the source alone. -/
theorem checkArtifact_scratch (writes : s.WritesScript) {timers : List Timer} {place : Location}
    {f : Folder} (led : FileTree.locate f (s.sourcePath u) = .ok place) (source : Text) :
    Action.Keeps (Scratch timers place f)
      (s.checkArtifact ⟨u.toText, s.sourcePath u⟩ source) := by
  have stored : ∀ bytes, Action.Keeps (Scratch timers place f)
      (Action.change (s.sourcePath u) fun files p => FileTree.storeFile files p bytes) := by
    intro bytes
    refine Action.Ends.change ?_ fun _ _ scratch _ => scratch
    intro w files scratch done
    exact ⟨scratch.1, scratch.2.stored led done⟩
  refine checkArtifact_keeps unlogged_scratch
    (writeSource_keeps (Action.Keeps.attempt (writeText_keeps stored source))) fun dirs => ?_
  refine Toolchain.typecheck_keeps _ _ unlogged_scratch fun w scratch => ⟨scratch.1, ?_⟩
  exact scratch.2.congr (writes.check w.calls.length u dirs w.files)

/-- The deletions are these, and the tree shows what the first one does. -/
def Restored (timers : List Timer) (f : Folder) (w : World) : Prop :=
  w.timers = timers ∧ ∀ q, w.files.look q = f.look q

theorem unlogged_restored {timers : List Timer} {f : Folder} :
    Toolchain.Unlogged (Restored timers f) := by
  intro w level source message restored
  rw [Restored, World.logged_timers, World.logged_files]
  exact restored

/-- Whether type checking a source answers or fails, the source is deleted after it. -/
theorem released_scratch (writes : s.WritesScript) {timers : List Timer} {place : Location}
    {f : Folder} (led : FileTree.locate f (s.sourcePath u) = .ok place)
    (nothing : f.look place = none) (source : Text) :
    Action.Ends (Scratch timers place f)
      (Action.guarded (s.checkArtifact ⟨u.toText, s.sourcePath u⟩ source)
        (delete (s.sourcePath u)))
      fun _ => Restored timers f := by
  refine Action.Ends.guarded (checkArtifact_scratch writes led source) fun r => ?_
  intro x scratch
  have gone := deleted_delete (s.sourcePath u) x
  have restored : Restored timers f ((delete (s.sourcePath u)).run x).2 :=
    ⟨gone.timers.trans scratch.1, scratch.2.dropped led nothing gone.files⟩
  split
  · exact restored
  · exact restored

/-- A type check leaves the tree as it was, and with an artifact one more deletion. -/
theorem checkModule_frame (writes : s.WritesScript) (content : Text) (w : World) :
    let after := ((s.checkModule content).run w).2
    (∀ q, after.files.look q = w.files.look q) ∧ s.OneDeletion w after := by
  dsimp only
  unfold checkModule
  rw [Action.run_bind]
  rcases s.newArtifact_cases s.settings.sourceExtension w with
    ⟨failure, v, run, _, _, -, rfl⟩ | ⟨u, v, files, ⟨_, _, -, rfl⟩, -, created, run⟩
  · -- without an artifact only identifiers were asked for
    rw [run]
    refine ⟨fun _ => rfl, .inl ⟨?_, rfl⟩⟩
    rintro u ⟨x, made⟩
    rw [run] at made
    cases made
  · rw [← sourcePath] at created run
    rw [run]
    obtain ⟨place, led, nothing, near⟩ := FileTree.AllBut.of_created created
    obtain ⟨timers, more⟩ : ∃ timers, w.timers ++ [⟨s.sourcePath u, s.expiry w.clock⟩] = timers :=
      ⟨_, rfl⟩
    dsimp only
    rw [Action.run_bind, s.run_scheduleDelete]
    dsimp only [formatForCheck]
    -- from here on the source is in the tree and its deletion is scheduled
    suffices restored : Restored timers w.files _ from
      ⟨restored.2, .inr ⟨u, ⟨_, run⟩, restored.1.trans more.symm⟩⟩
    refine Action.Ends.bind (R := fun _ => Restored timers w.files)
      (released_scratch writes led nothing _) (fun _ _ done => done)
      (fun answer => ?_) _ ?_
    · split
      · exact Action.Keeps.pure
      · exact checkAnswer_keeps unlogged_restored _ _ _
    · exact ⟨more, near⟩

/-! ## Modules -/

/-- A place below the directory of modules. -/
def InModules (s : Service) (q : Location) : Prop :=
  s.modulesDir.home <+: q ∧ q ≠ s.modulesDir.home

/-- The trees show the same below the directory of modules. -/
def ModulesKept (s : Service) (f g : Folder) : Prop := ∀ q, s.InModules q → g.look q = f.look q

theorem ModulesKept.trans {f g h : Folder} (first : s.ModulesKept f g)
    (second : s.ModulesKept g h) : s.ModulesKept f h :=
  fun q inside => (second q inside).trans (first q inside)

/-- The directories of temporary and of public files lie outside the directory of modules; the path
of the latter names no place inside on its way either, and no extension leads sources there. -/
structure Outside (s : Service) : Prop where
  temp : ¬ s.modulesDir.home <+: s.tempDir.home
  gen : ¬ s.modulesDir.home <+: s.genDir.home
  way : ∀ q, s.genDir.OnWay q → ¬ s.InModules q
  sources : FilePath.slash ∈ s.settings.sourceExtension →
    ∀ u : Uuid, ¬ s.InModules (s.sourcePath u).home

/-- On a way that does not lead up nothing is inside, if the directory at its end is not. -/
theorem way_of_straight (straight : FilePath.up ∉ s.genDir.parts)
    (gen : ¬ s.modulesDir.home <+: s.genDir.home) (q : Location) (way : s.genDir.OnWay q) :
    ¬ s.InModules q := by
  rintro ⟨inside, -⟩
  exact gen (inside.trans (way.prefix_home straight))

/-- A file directly in a directory outside lies outside. -/
theorem not_inModules_of_name {dir : Location} {name : Text}
    (outside : ¬ s.modulesDir.home <+: dir) : ¬ s.InModules (dir ++ [name]) := by
  rintro ⟨inside, other⟩
  rcases List.prefix_concat_iff.1 inside with same | above
  · exact other same.symm
  · exact outside above

theorem Outside.not_inModules (outside : s.Outside) {path : FilePath}
    (own : path ∈ s.ownPaths u kind) : ¬ s.InModules path.home := by
  have generated : ∀ {ext : Text}, FilePath.slash ∉ ext →
      ¬ s.InModules (s.generatedPath u.toText ext).home := by
    intro ext noSlash
    rw [s.generatedPath_eq u noSlash, FilePath.home_name s.genDir (up_ne_name u ext)]
    exact not_inModules_of_name outside.gen
  have own := s.own_compile own
  simp only [ownPaths, List.mem_cons, List.not_mem_nil, or_false] at own
  rcases own with rfl | rfl | rfl
  · -- only an extension with a slash takes a source out of its directory
    by_cases slash : FilePath.slash ∈ s.settings.sourceExtension
    · exact outside.sources slash u
    · rw [home_sourcePath (not_climbs_of_noSlash slash),
        FilePath.partsOf_name (isPart_id u slash)]
      exact not_inModules_of_name outside.temp
  · rw [scriptPath]
    exact generated (by decide)
  · rw [pagePath]
    exact generated (by decide)

theorem modulesKept_of_within (outside : s.Outside) {f g : Folder}
    (within : s.RequestWithin kind u f g) : s.ModulesKept f g := by
  intro q inside
  rcases within q with same | ⟨path, own, rfl⟩ | ⟨⟨-, way⟩, -, -⟩
  · exact same
  · exact absurd inside (outside.not_inModules own)
  · exact absurd inside (outside.way q way)

theorem Effected.modulesKept (writes : s.WritesScript) (outside : s.Outside)
    (effected : s.Effected kind w after) : s.ModulesKept w.files after.files := by
  rcases effected.within writes with same | ⟨u, -, within⟩
  · rw [same]
    exact fun _ _ => rfl
  · exact modulesKept_of_within outside within

/-! ## Runs -/

/-- A deletion of a request's own file leaves the modules alone. -/
theorem modulesKept_fire (outside : s.Outside) {timer : Timer}
    (own : timer.path ∈ s.ownPaths u .compile) :
    s.ModulesKept w.files (fire w timer).files := by
  have kept : ∀ files, FileTree.dropFile w.files timer.path = .ok files →
      s.ModulesKept w.files files := by
    intro files dropped
    rw [FileTree.dropFile_eq] at dropped
    exact modulesKept_of_within outside (.of_applyAt own dropped)
  rcases fire_cases w timer with gone | ⟨same, -⟩
  · rcases gone.files with dropped | ⟨-, same⟩
    · exact kept _ dropped
    · rw [same]
      exact fun _ _ => rfl
  · rw [same]
    exact fun _ _ => rfl

theorem modulesKept_foldl_fire (outside : s.Outside) {due : List Timer}
    (own : ∀ t ∈ due, ∃ u, t.path ∈ s.ownPaths u .compile) :
    s.ModulesKept w.files (due.foldl fire w).files := by
  induction due generalizing w with
  | nil => exact fun _ _ => rfl
  | cons timer more ih =>
      obtain ⟨u, mine⟩ := own timer List.mem_cons_self
      rw [List.foldl_cons]
      exact (modulesKept_fire outside mine).trans
        (ih fun t mem => own t (List.mem_cons_of_mem _ mem))

theorem modulesKept_step (writes : s.WritesScript) (outside : s.Outside) (owned : s.Owned w)
    (next : Step) : s.ModulesKept w.files (s.step w next).files := by
  cases next with
  | check content => exact (checkModule_effects content).modulesKept writes outside
  | compile content => exact (compileModule_effects content).modulesKept writes outside
  | wait seconds =>
      rw [step, elapse]
      refine modulesKept_foldl_fire (w := moved seconds w) outside fun t mem => ?_
      have pending := (List.mem_filter.1 (List.mem_mergeSort.1 mem)).1
      obtain ⟨u, -, own⟩ := owned t pending
      exact ⟨u, own⟩

/-- In a run that starts with no deletions but of requests' own files nothing below the directory of
modules changes. -/
theorem modulesKept_after (writes : s.WritesScript) (outside : s.Outside) (owned : s.Owned w)
    (steps : List Step) : s.ModulesKept w.files (s.after w steps).files := by
  induction steps generalizing w with
  | nil => exact fun _ _ => rfl
  | cons next more ih =>
      exact (modulesKept_step writes outside owned next).trans (ih (owned_step owned next))

/-! ## Commands -/

/-- The worlds differ in their logs at most. -/
def OnlyLogged (w after : World) : Prop := ∃ records, after = { w with records := records }

theorem unlogged_onlyLogged (w : World) : Toolchain.Unlogged (OnlyLogged w) := by
  rintro _ level source message ⟨records, rfl⟩
  unfold World.logged
  split
  · exact ⟨_, rfl⟩
  · exact ⟨records, rfl⟩

theorem listModules_onlyLogged (scope : Text) (w : World) :
    OnlyLogged w ((s.listModules scope).run w).2 :=
  listModules_keeps (unlogged_onlyLogged w) scope w ⟨w.records, rfl⟩

theorem getModule_onlyLogged (name : Text) (w : World) :
    OnlyLogged w ((s.getModule name).run w).2 :=
  getModule_keeps name w ⟨w.records, rfl⟩

/-- What a command leaves. Listing and looking up modules leaves everything but the log. A type
check leaves the tree, and with an artifact one more deletion. A compilation changes its own three
files at most, and makes directories on the way to that of public files. -/
def Frame (s : Service) (w after : World) : Command → Prop
  | .listModules _ => OnlyLogged w after
  | .getModule _ => OnlyLogged w after
  | .checkModule _ => (∀ q, after.files.look q = w.files.look q) ∧ s.OneDeletion w after
  | .compileModule _ => after.files = w.files ∨
    ∃ u, s.HasArtifact w u ∧ s.RequestWithin .compile u w.files after.files

theorem dispatch_modulesKept (writes : s.WritesScript) (outside : s.Outside) (w : World)
    (c : Command) : s.ModulesKept w.files ((s.dispatch c).run w).2.files := by
  have logged : ∀ {after : World}, OnlyLogged w after → s.ModulesKept w.files after.files := by
    rintro _ ⟨records, rfl⟩ q -
    rfl
  cases c with
  | listModules scope =>
      exact logged (listModules_onlyLogged _ w)
  | getModule name => exact logged (getModule_onlyLogged name w)
  | checkModule content => exact (checkModule_effects content).modulesKept writes outside
  | compileModule content => exact (compileModule_effects content).modulesKept writes outside

/-- With processes that write nothing but scripts, every command leaves alone what is not its own,
whether it answers or fails; and where the directories lie outside the modules, no command and no
run changes anything below the directory of modules. -/
theorem dispatch_frame (s : Service) (writes : s.WritesScript) (w : World) (c : Command) :
    s.Frame w ((s.dispatch c).run w).2 c ∧
      (s.Outside → s.ModulesKept w.files ((s.dispatch c).run w).2.files ∧
        (w.timers = [] → ∀ steps, s.ModulesKept w.files (s.after w steps).files)) := by
  refine ⟨?_, fun outside => ⟨dispatch_modulesKept writes outside w c, fun idle =>
    modulesKept_after writes outside (owned_of_idle idle)⟩⟩
  cases c with
  | listModules scope => exact listModules_onlyLogged _ w
  | getModule name => exact getModule_onlyLogged name w
  | checkModule content => exact checkModule_frame writes content w
  | compileModule content => exact (compileModule_effects content).within writes

theorem outside_obedientService : obedientService.Outside where
  temp := by decide
  gen := by decide
  way := way_of_straight (by decide) (by decide)
  sources slash := absurd slash (by decide)

/-- A compilation makes directories and leaves the modules alone, and so does a run in which the
deletion of a source fires. -/
theorem dispatch_frame_obedient :
    let command : Command := .compileModule (lit "main")
    let after := ((obedientService.dispatch command).run emptyWorld).2
    obedientService.WritesScript ∧ obedientService.Outside ∧
      obedientService.Frame emptyWorld after command ∧
      obedientService.ModulesKept emptyWorld.files after.files ∧
      obedientService.ModulesKept emptyWorld.files
        (obedientService.after emptyWorld [.check (lit "x"), .wait 5]).files ∧
      after.files.look [lit "static", lit "gen"] = some .dir := by
  have writes : obedientService.WritesScript :=
    (outputOnly_of_obedient rfl (by decide)).writesScript
  obtain ⟨frame, kept⟩ := dispatch_frame obedientService writes emptyWorld
    (.compileModule (lit "main"))
  obtain ⟨now, later⟩ := kept outside_obedientService
  exact ⟨writes, outside_obedientService, frame, now, later rfl _, by decide +kernel⟩

/-! ## Commands that reach further -/

/-- A service whose directory of public files lies outside the modules, but is reached through them.
-/
def windingService : Service :=
  { obedientService with settings := { genDir := lit "modules/library/../../gen" } }

/-- A service whose extension leads sources to the modules. -/
def invadingService : Service :=
  { obedientService with settings := { sourceExtension := lit "/../../modules/x" } }

/-- A world in which these sources can be written, and no public file can. -/
def invadedWorld : World where
  files := .file (lit "static") [] false (.dir (lit "modules") .empty
    (.dir (lit "tmp") (.dir (Uuid.ofNat 1).toText .empty .empty) .empty))

/-- A compilation makes a directory among the modules where the path of the directory of public
files leads through them, and leaves a source there where the extension does. -/
theorem commands_reach_further :
    (windingService.WritesScript ∧
      ¬ windingService.modulesDir.home <+: windingService.tempDir.home ∧
      ¬ windingService.modulesDir.home <+: windingService.genDir.home ∧
      let after := ((windingService.dispatch (.compileModule (lit "main"))).run emptyWorld).2
      emptyWorld.files.look [lit "modules", lit "library"] = none ∧
      after.files.look [lit "modules", lit "library"] = some .dir) ∧
    invadingService.WritesScript ∧
      ¬ invadingService.modulesDir.home <+: invadingService.tempDir.home ∧
      ¬ invadingService.modulesDir.home <+: invadingService.genDir.home ∧
      let after := ((invadingService.dispatch (.compileModule (lit "main"))).run invadedWorld).2
      invadedWorld.files.look [lit "modules", lit "x"] = none ∧
      after.files.look [lit "modules", lit "x"] = some (.file [] false) := by
  refine ⟨⟨(outputOnly_of_obedient rfl (by decide)).writesScript, by decide, by decide, ?_⟩,
    (outputOnly_of_obedient rfl (by decide)).writesScript, by decide, by decide, ?_⟩
  · decide +kernel
  · decide +kernel

end CompileService.Service
