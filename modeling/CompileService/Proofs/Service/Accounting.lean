import CompileService.Proofs.Service.Artifacts
import CompileService.Proofs.Service.Steps

/-!
# Files are accounted for

Every file that a request creates goes away again: from the moment at which it can be there, the
request still has its path in hand or a deletion of just this path is pending.

* `Accounted`: the invariant, with the paths in hand (`held`) and paths whose deletion is pending.
  Each action of a request keeps it: what creates a file takes the path in hand, and a deletion that
  is scheduled lets go of it.
* `Confined`, `Steady`: what the invariant needs of the processes that requests start.
* `checkModule_accounted`, `compileModule_accounted`: a request, however it ends, ends with nothing
  in hand.
-/

namespace CompileService

/-- The source of an artifact as a command line names it. -/
def Service.sourceText (s : Service) (u : Uuid) : Text :=
  (s.tempPath u.toText s.settings.sourceExtension).toText

/-- The script of an artifact as a command line names it. -/
def Service.scriptText (s : Service) (u : Uuid) : Text :=
  (s.generatedPath u.toText (lit ".js")).toText

/-- What processes may do to the files: a type check creates none, and a compilation creates one at
most, where the path after `-o` leads. -/
structure Service.Confined (s : Service) : Prop where
  typecheck : ∀ n u dirs files q,
    let argv := s.toolchain.typecheckArgv (s.sourceText u) dirs
    (s.runner n ⟨argv, s.toolchain.timeout⟩ files).2.FileAt q → files.FileAt q
  compile : ∀ n u files q,
    let argv := s.toolchain.compileArgv (s.sourceText u) (s.scriptText u)
    let left := (s.runner n ⟨argv, s.toolchain.timeout⟩ files).2
    left.FileAt q → files.FileAt q ∨
      FileTree.locate left (FilePath.ofText (s.scriptText u)) = .ok q

/-- The deletion is due by a time, if there is a time. -/
def Timer.DueBy (bound : Option Rat) (t : Timer) : Prop :=
  ∀ latest, bound = some latest → ∃ due, t.due = some due ∧ due ≤ latest

namespace Service

variable (s : Service)

/-- Processes remove no directories. -/
def SparesDirs : Prop :=
  ∀ n launch files q, files.look q = some .dir → (s.runner n launch files).2.look q = some .dir

/-- A path that goes on leading to a file for as long as the file is there, whatever processes do to
the directories. -/
def Firm (path : FilePath) : Prop := FilePath.up ∉ path.parts ∨ s.SparesDirs

/-- No path of an artifact leads back up, or processes remove no directories. -/
def Steady : Prop :=
  (FilePath.up ∉ s.genDir.parts ∧
      ∀ u : Uuid, FilePath.up ∉ (s.tempPath u.toText s.settings.sourceExtension).parts) ∨
    s.SparesDirs

theorem Steady.temp {s : Service} (steady : s.Steady) (u : Uuid) :
    s.Firm (s.tempPath u.toText s.settings.sourceExtension) :=
  steady.imp (·.2 u) id

theorem Steady.generated {s : Service} (steady : s.Steady) (u : Uuid) {ext : Text}
    (noSlash : FilePath.slash ∉ ext) : s.Firm (s.generatedPath u.toText ext) := by
  refine steady.imp (fun straight => ?_) id
  rw [s.generatedPath_eq u noSlash, List.mem_append, not_or]
  exact ⟨straight.1, fun name => up_ne_name u ext (List.mem_singleton.1 name)⟩

/-! ## The invariant -/

/-- A deletion of the path is pending, and due by `bound`. -/
def Pending (bound : Option Rat) (w : World) (path : FilePath) : Prop :=
  ∃ t ∈ w.timers, t.path = path ∧ t.DueBy bound

/-- Every file was there at the start, or a path in hand leads to it, or one that is pending. -/
def Covered (start : Folder) (bound : Option Rat) (held : List FilePath) (w : World) : Prop :=
  ∀ q, w.files.FileAt q → start.FileAt q ∨
    ∃ path, FileTree.locate w.files path = .ok q ∧ s.Firm path ∧
      (path ∈ held ∨ Pending bound w path)

/-- The invariant of a request: all files are covered, and the deletions of some paths are
pending. -/
structure Accounted (start : Folder) (bound : Option Rat) (held pending : List FilePath)
    (w : World) : Prop where
  covered : s.Covered start bound held w
  timed : ∀ path ∈ pending, Pending bound w path
  clock : s.expiry w.clock = bound

section
variable {s} {start : Folder} {bound : Option Rat} {held held' pending : List FilePath}
  {w v : World}

theorem Pending.mono {path : FilePath} (h : Pending bound w path)
    (timers : ∀ t ∈ w.timers, t ∈ v.timers) : Pending bound v path := by
  obtain ⟨t, mem, rest⟩ := h
  exact ⟨t, timers t mem, rest⟩

/-- Files stay covered when firm paths lead where they led and files that are new are covered. -/
theorem Covered.change (h : s.Covered start bound held w)
    (leads : ∀ path q, s.Firm path → v.files.FileAt q → FileTree.locate w.files path = .ok q →
      FileTree.locate v.files path = .ok q)
    (files : ∀ q, v.files.FileAt q → w.files.FileAt q ∨
      ∃ path ∈ held', FileTree.locate v.files path = .ok q ∧ s.Firm path)
    (more : ∀ path ∈ held, path ∈ held') (timers : ∀ t ∈ w.timers, t ∈ v.timers) :
    s.Covered start bound held' v := by
  intro q file
  rcases files q file with before | ⟨path, inHand, found, firm⟩
  · rcases h q before with first | ⟨path, found, firm, kept⟩
    · exact .inl first
    · exact .inr ⟨path, leads path q firm file found, firm,
        kept.imp (more path) (·.mono timers)⟩
  · exact .inr ⟨path, found, firm, .inl inHand⟩

theorem Accounted.change (h : s.Accounted start bound held pending w)
    (leads : ∀ path q, s.Firm path → v.files.FileAt q → FileTree.locate w.files path = .ok q →
      FileTree.locate v.files path = .ok q)
    (files : ∀ q, v.files.FileAt q → w.files.FileAt q ∨
      ∃ path ∈ held', FileTree.locate v.files path = .ok q ∧ s.Firm path)
    (more : ∀ path ∈ held, path ∈ held') (timers : v.timers = w.timers)
    (clock : v.clock = w.clock) : s.Accounted start bound held' pending v where
  covered := h.covered.change leads files more (by simp [timers])
  timed path mem := (h.timed path mem).mono (by simp [timers])
  clock := by rw [clock, h.clock]

/-- Nothing changes but what is neither file, timer nor clock. -/
theorem Accounted.same (h : s.Accounted start bound held pending w) (files : v.files = w.files)
    (timers : v.timers = w.timers) (clock : v.clock = w.clock) :
    s.Accounted start bound held pending v :=
  h.change (by rw [files]; exact fun _ _ _ _ found => found)
    (by rw [files]; exact fun _ file => .inl file) (fun _ mem => mem) timers clock

theorem Accounted.logged (h : s.Accounted start bound held pending w) (level : LogLevel)
    (source : String) (message : Text) :
    s.Accounted start bound held pending (w.logged level source message) :=
  h.same (by simp) (by simp) (by simp)

/-- A leaf put where a firm path leads puts the path in hand. -/
theorem Accounted.leaf (h : s.Accounted start bound held pending w) {path : FilePath}
    (firm : s.Firm path) {rule : FileTree.LeafRule} {files : Folder}
    (done : rule.applyAt w.files path = .ok files) :
    s.Accounted start bound (path :: held) pending { w with files := files } := by
  have dirs : ∀ q, w.files.look q = some .dir → files.look q = some .dir :=
    fun _ dir => FileTree.LeafRule.dir_of_applyAt done dir
  refine h.change (fun _ _ _ _ found => FileTree.locate_of_dirs dirs found) ?_
    (fun _ mem => List.mem_cons_of_mem _ mem) rfl rfl
  intro q file
  refine (FileTree.LeafRule.fileAt_of_applyAt done file).imp_right fun found => ?_
  exact ⟨path, List.mem_cons_self, FileTree.locate_of_dirs dirs found, firm⟩

/-- More paths in hand do no harm. -/
theorem Accounted.hold (h : s.Accounted start bound held pending w) (path : FilePath) :
    s.Accounted start bound (path :: held) pending w :=
  h.change (fun _ _ _ _ found => found) (fun _ file => .inl file)
    (fun _ mem => List.mem_cons_of_mem _ mem) rfl rfl

/-- A path whose deletion is pending need not be kept in hand. -/
theorem Accounted.release {path : FilePath}
    (h : s.Accounted start bound (path :: held) pending w) (timed : path ∈ pending) :
    s.Accounted start bound held pending w := by
  refine ⟨?_, h.timed, h.clock⟩
  intro q file
  refine (h.covered q file).imp_right ?_
  rintro ⟨other, found, firm, kept⟩
  refine ⟨other, found, firm, ?_⟩
  rcases kept with inHand | later
  · rcases List.mem_cons.1 inHand with rfl | rest
    · exact .inr (h.timed _ timed)
    · exact .inl rest
  · exact .inr later

/-- Scheduling the deletion of a path in hand lets go of it. -/
theorem Accounted.schedule {path : FilePath}
    (h : s.Accounted start bound (path :: held) pending w) :
    s.Accounted start bound held (path :: pending) (s.readied w path w.files) := by
  have more : ∀ t ∈ w.timers, t ∈ (s.readied w path w.files).timers :=
    fun t mem => List.mem_append_left _ mem
  have due : Timer.DueBy bound ⟨path, s.expiry w.clock⟩ := by
    intro latest same
    exact ⟨latest, h.clock.trans same, Rat.le_refl⟩
  have timed : s.Accounted start bound (path :: held) (path :: pending)
      (s.readied w path w.files) := by
    refine ⟨?_, ?_, h.clock⟩
    · exact h.covered.change (fun _ _ _ _ found => found) (fun _ file => .inl file)
        (fun _ mem => mem) more
    · intro other mem
      rcases List.mem_cons.1 mem with rfl | before
      · exact ⟨⟨other, s.expiry w.clock⟩, by simp, rfl, due⟩
      · exact (h.timed other before).mono more
  exact timed.release List.mem_cons_self

theorem Accounted.forget {path : FilePath}
    (h : s.Accounted start bound held (path :: pending) w) :
    s.Accounted start bound held pending w :=
  ⟨h.covered, fun other mem => h.timed other (List.mem_cons_of_mem _ mem), h.clock⟩

end

/-! ## Actions -/

section
variable {s} {start : Folder} {bound : Option Rat} {held pending : List FilePath}

theorem unlogged_accounted : Toolchain.Unlogged (s.Accounted start bound held pending) :=
  fun _ level source message h => h.logged level source message

theorem delete_accounted (path : FilePath) :
    Action.Keeps (s.Accounted start bound held pending) (delete path) := by
  intro w h
  have gone := deleted_delete path w
  rcases gone.files with dropped | ⟨-, same⟩
  · have done := dropped
    rw [FileTree.dropFile_eq] at done
    refine h.change (fun _ _ _ _ found => ?_) (fun _ file => ?_) (fun _ mem => mem) gone.timers
      gone.clock
    · exact FileTree.locate_of_dirs (fun _ dir => FileTree.LeafRule.dir_of_applyAt done dir) found
    · exact .inl (FileTree.fileAt_of_dropFile dropped file).1
  · exact h.same same gone.timers gone.clock

/-- Writing a text takes the path in hand, if anything is written. -/
theorem writeText_accounted {path : FilePath} (firm : s.Firm path) (t : Text) :
    Action.Ends (s.Accounted start bound held pending) (Action.writeText path t)
      fun _ => s.Accounted start bound (path :: held) pending := by
  have stored : ∀ bytes, Action.Ends (s.Accounted start bound held pending)
      (Action.change path fun files p => FileTree.storeFile files p bytes)
      fun _ => s.Accounted start bound (path :: held) pending := by
    intro bytes
    refine Action.Ends.change ?_ fun w fault h _ => h.hold path
    intro w files h done
    rw [FileTree.storeFile_eq] at done
    exact h.leaf firm done
  unfold Action.writeText
  split
  · exact stored _
  · exact Action.Ends.bind (stored []) (fun _ _ h => h) fun _ => Action.Ends.fail fun _ h => h

/-- Writing an encodable text that fails leaves nothing. -/
theorem writeText_accounted_of_encodable {path : FilePath} (firm : s.Firm path) {t : Text}
    (valid : t.Encodable) :
    Action.Ends (s.Accounted start bound held pending) (Action.writeText path t) fun r w =>
      s.Accounted start bound (path :: held) pending w ∧
        ∀ failure, r = .error failure → s.Accounted start bound held pending w := by
  unfold Action.writeText
  rw [Utf8.encode_of_encodable valid]
  refine Action.Ends.change ?_ fun w fault h _ => ⟨h.hold path, fun _ _ => h⟩
  intro w files h done
  rw [FileTree.storeFile_eq] at done
  exact ⟨h.leaf firm done, fun _ failed => by cases failed⟩

theorem scheduleDelete_accounted (path : FilePath) :
    Action.Ends (s.Accounted start bound (path :: held) pending) (s.scheduleDelete path)
      fun r w => r = .ok () ∧ s.Accounted start bound held (path :: pending) w := by
  intro w h
  rw [s.run_scheduleDelete]
  exact ⟨rfl, h.schedule⟩

theorem makeDirs_accounted (path : FilePath) :
    Action.Keeps (s.Accounted start bound held pending) (Action.makeDirs path) := by
  intro w h
  have grown := FileTree.makeDirs_grown w.files path
  have moved : s.Accounted start bound held pending
      { w with files := (FileTree.makeDirs w.files path).1 } := by
    refine h.change (fun _ _ _ _ found => ?_) (fun q file => ?_) (fun _ mem => mem) rfl rfl
    · exact FileTree.locate_of_dirs (fun _ dir => grown.dir dir) found
    · obtain ⟨content, executable, shown⟩ := file
      rcases grown q with same | ⟨-, now⟩
      · exact .inl ⟨content, executable, same.symm.trans shown⟩
      · rw [now] at shown
        cases shown
  unfold Action.makeDirs Action.run
  rcases made : FileTree.makeDirs w.files path with ⟨files, _ | ⟨at_, fault⟩⟩
  · simpa [made] using moved
  · simpa [made] using moved

/-- A new artifact is in hand, and its path leads to a place. -/
theorem newArtifact_accounted (steady : s.Steady) :
    Action.Ends (s.Accounted start bound held pending)
      (s.newArtifact s.settings.sourceExtension)
      fun r w =>
        match r with
        | .ok artifact => s.Accounted start bound (artifact.path :: held) pending w ∧
            s.Firm artifact.path ∧ (∃ f place, FileTree.locate f artifact.path = .ok place) ∧
            ∃ u : Uuid, artifact.id = u.toText ∧ artifact.path.toText = s.sourceText u
        | .error _ => s.Accounted start bound held pending w := by
  intro w h
  rcases s.newArtifact_cases s.settings.sourceExtension w with
    ⟨failure, v, run, drawn, pauses, -, rfl⟩ |
      ⟨u, v, files, ⟨drawn, pauses, -, rfl⟩, -, made, run⟩
  · rw [run]
    exact h.same rfl rfl rfl
  · rw [run]
    rw [FileTree.createFile_eq] at made
    obtain ⟨place, -, found, -⟩ := FileTree.LeafRule.applyAt_ok made
    have firm := steady.temp u
    dsimp only
    refine ⟨?_, firm, ⟨w.files, place, found⟩, u, rfl, rfl⟩
    exact (h.leaf firm made).same rfl rfl rfl

/-- A source is written to a file whose deletion is pending. -/
theorem writeSource_accounted {path : FilePath} (firm : s.Firm path) (timed : path ∈ pending)
    (source : Text) :
    Action.Keeps (s.Accounted start bound held pending) (writeSource path source) := by
  have written : Action.Keeps (s.Accounted start bound held pending)
      (Action.attempt (Action.writeText path source)) :=
    (Action.Ends.attempt (writeText_accounted firm source)).weaken (fun _ h => h)
      fun _ _ ⟨_, _, h⟩ => h.release timed
  exact writeSource_keeps written

/-- After a process has ended firm paths lead where they led. -/
theorem Accounted.started {w : World} {held' : List FilePath} {n : Nat} {launch : Launch}
    (h : s.Accounted start bound held pending w)
    (files : ∀ q, (s.runner n launch w.files).2.FileAt q → w.files.FileAt q ∨
      ∃ path ∈ held', FileTree.locate (s.runner n launch w.files).2 path = .ok q ∧ s.Firm path)
    (more : ∀ path ∈ held, path ∈ held') :
    s.Accounted start bound held' pending
      (Toolchain.started w launch (s.runner n launch w.files).2) := by
  refine h.change ?_ files more rfl rfl
  intro path q firm file found
  rcases firm with straight | spares
  · obtain ⟨content, executable, shown⟩ := file
    exact FileTree.locate_of_plain straight found (by rw [shown]; simp)
  · exact FileTree.locate_of_dirs (spares n launch w.files) found

/-- Running a command line keeps files accounted for, if its process does. -/
theorem toolchain_accounted {held' : List FilePath} (argv : List Text)
    (files : ∀ n (f : Folder) q, (s.runner n ⟨argv, s.toolchain.timeout⟩ f).2.FileAt q →
      f.FileAt q ∨ ∃ path ∈ held',
        FileTree.locate (s.runner n ⟨argv, s.toolchain.timeout⟩ f).2 path = .ok q ∧ s.Firm path)
    (more : ∀ path ∈ held, path ∈ held') :
    Action.Ends (s.Accounted start bound held pending) (s.toolchain.run s.runner argv)
      fun _ => s.Accounted start bound held' pending :=
  Toolchain.run_ends (Q := fun _ => s.Accounted start bound held' pending) _ _ _
    unlogged_accounted (fun w h => h.started (files _ w.files) more)
    (fun outcome => Toolchain.judge_keeps unlogged_accounted _ outcome)

theorem typecheck_accounted (confined : s.Confined) (u : Uuid) (dirs : List Text) :
    Action.Keeps (s.Accounted start bound held pending)
      (s.toolchain.typecheck s.runner (s.sourceText u) dirs) := by
  refine Toolchain.typecheck_keeps _ _ unlogged_accounted fun w h => ?_
  exact h.started (fun q file => .inl (confined.typecheck _ u dirs w.files q file)) fun _ mem => mem

/-- A compilation takes the path of the script in hand. -/
theorem compile_accounted (confined : s.Confined) (u : Uuid) {out : FilePath} (firm : s.Firm out)
    (wellFormed : out.WellFormed) (script : out.toText = s.scriptText u) :
    Action.Ends (s.Accounted start bound held pending)
      (s.toolchain.compile s.runner (s.sourceText u) out.toText)
      fun _ => s.Accounted start bound (out :: held) pending := by
  have run : Action.Ends (s.Accounted start bound held pending)
      (s.toolchain.run s.runner (s.toolchain.compileArgv (s.sourceText u) out.toText))
      fun _ => s.Accounted start bound (out :: held) pending := by
    refine toolchain_accounted _ ?_ fun _ mem => List.mem_cons_of_mem _ mem
    intro n f q file
    rw [script] at file ⊢
    refine (confined.compile n u f q file).imp_right fun found => ?_
    rw [← script, FilePath.ofText_toText wellFormed, script] at found
    exact ⟨out, List.mem_cons_self, found, firm⟩
  refine Action.Ends.bind run (fun _ _ h => h) fun result => ?_
  split
  · exact Action.Keeps.pure
  · refine Action.Keeps.bind Action.Keeps.ask fun there => ?_
    split
    · exact Action.Keeps.pure
    · split
      · exact Action.Keeps.pure
      · exact Action.Keeps.pure

/-! ## Requests -/

theorem checkArtifact_accounted (confined : s.Confined) {artifact : Artifact} {u : Uuid}
    (firm : s.Firm artifact.path) (named : artifact.path.toText = s.sourceText u)
    (timed : artifact.path ∈ pending) (source : Text) :
    Action.Keeps (s.Accounted start bound held pending) (s.checkArtifact artifact source) := by
  refine checkArtifact_keeps unlogged_accounted (writeSource_accounted firm timed source) ?_
  rw [named]
  exact typecheck_accounted confined u

/-- A type check, however it ends, leaves nothing behind that is not from the start or pending. -/
theorem checkModule_accounted (confined : s.Confined) (steady : s.Steady) (content : Text) :
    Action.Keeps (s.Accounted start bound [] []) (s.checkModule content) := by
  refine Action.Ends.bind (newArtifact_accounted steady) (fun _ _ h => h) fun artifact => ?_
  refine Action.Ends.given ?_
  rintro ⟨firm, -, u, -, named⟩
  -- from here on the deletion of the source is pending
  refine Action.Ends.bind (scheduleDelete_accounted artifact.path)
    (fun _ _ ⟨ok, _⟩ => by cases ok) fun _ => ?_
  refine Action.Ends.weaken (Q := fun _ => s.Accounted start bound [] [artifact.path]) ?_
    (fun _ ⟨_, h⟩ => h) fun _ _ h => h.forget
  refine Action.Keeps.bind ?_ fun answer => ?_
  · refine Action.Ends.guarded
      (checkArtifact_accounted confined firm named (List.mem_singleton_self _) _) fun r => ?_
    exact (delete_accounted _).weaken (fun _ h => h) fun c _ h => by cases c <;> exact h
  · split
    · exact Action.Keeps.pure
    · exact checkAnswer_keeps unlogged_accounted _ _ _

/-- The settings of the preview pages hold no surrogate. -/
def ValidPreview (s : Service) : Prop :=
  (∀ t ∈ s.settings.previewStylesheets, t.Encodable) ∧ ∀ t ∈ s.settings.previewScripts, t.Encodable

/-- A page is written and its deletion is scheduled, or nothing is written. -/
theorem emitPreview_accounted (steady : s.Steady) (valid : s.ValidPreview) (u : Uuid)
    {script : Text} (encodable : script.Encodable) :
    Action.Keeps (s.Accounted start bound held pending) (s.emitPreview u.toText script) := by
  have firm : s.Firm (s.generatedPath u.toText (lit ".html")) := steady.generated u (by decide)
  have page : (Preview.render script s.settings.previewStylesheets
      s.settings.previewScripts).Encodable := Preview.encodable_render encodable valid.1 valid.2
  unfold emitPreview
  refine Action.Ends.bind (writeText_accounted_of_encodable firm page) (fun _ _ h => h.2 _ rfl)
    fun _ => ?_
  refine Action.Ends.bind ((scheduleDelete_accounted _).weaken (fun _ h => h.1) fun _ _ h => h)
    (fun _ _ ⟨ok, _⟩ => by cases ok) fun _ => ?_
  exact Action.Ends.pure fun _ ⟨_, h⟩ => h.forget

theorem compileAnswer_accounted (steady : s.Steady) (valid : s.ValidPreview) (u : Uuid)
    {script : Text} (encodable : script.Encodable) (result : ToolchainResult) :
    Action.Keeps (s.Accounted start bound held pending)
      (s.compileAnswer u.toText script result) := by
  unfold compileAnswer
  split
  · exact Action.Keeps.pure
  · exact Action.Keeps.bind (Action.Keeps.log unlogged_accounted _ _ _) fun _ => Action.Keeps.pure
  · exact Action.Keeps.bind (emitPreview_accounted steady valid u encodable) fun _ =>
      Action.Keeps.bind (Action.Keeps.log unlogged_accounted _ _ _) fun _ => Action.Keeps.pure

theorem compileArtifact_accounted (confined : s.Confined) {artifact : Artifact} {out : FilePath}
    {u : Uuid} (firm : s.Firm artifact.path) (named : artifact.path.toText = s.sourceText u)
    (timed : artifact.path ∈ pending) (firmOut : s.Firm out) (wellFormed : out.WellFormed)
    (script : out.toText = s.scriptText u) (source : Text) :
    Action.Ends (s.Accounted start bound held pending) (s.compileArtifact artifact out source)
      fun _ => s.Accounted start bound (out :: held) pending := by
  refine Action.Ends.bind (writeSource_accounted firm timed source) (fun _ _ h => h.hold out)
    fun rejected => ?_
  split
  · exact Action.Ends.bind (Action.Keeps.log unlogged_accounted _ _ _)
      (fun _ _ h => h.hold out) fun _ => Action.Ends.pure fun _ h => h.hold out
  · rw [named]
    exact Action.Ends.bind (compile_accounted confined u firmOut wellFormed script)
      (fun _ _ h => h) fun _ => Action.Ends.pure fun _ h => h

/-- A compilation, however it ends, leaves nothing behind that is not from the start or pending. -/
theorem compileModule_accounted (confined : s.Confined) (steady : s.Steady)
    (valid : s.ValidPreview) (content : Text) :
    Action.Keeps (s.Accounted start bound [] []) (s.compileModule content) := by
  refine Action.Ends.bind (newArtifact_accounted steady) (fun _ _ h => h) fun artifact => ?_
  refine Action.Ends.given ?_
  rintro ⟨firm, ⟨f, place, led⟩, u, id, named⟩
  refine Action.Ends.bind (scheduleDelete_accounted artifact.path)
    (fun _ _ ⟨ok, _⟩ => by cases ok) fun _ => ?_
  refine Action.Ends.weaken (Q := fun _ => s.Accounted start bound [] [artifact.path]) ?_
    (fun _ ⟨_, h⟩ => h) fun _ _ h => h.forget
  refine Action.Keeps.bind (makeDirs_accounted _) fun _ => ?_
  obtain ⟨out, isOut⟩ : ∃ out, s.generatedPath artifact.id (lit ".js") = out := ⟨_, rfl⟩
  rw [isOut]
  have wellFormed : out.WellFormed := isOut ▸ s.wellFormed_generatedPath _ _
  have firmOut : s.Firm out := by
    rw [← isOut, id]
    exact steady.generated u (by decide)
  -- with its deletion scheduled the source is accounted for, and the script is what is in hand now
  refine Action.Keeps.bind ?_ fun answer => ?_
  · refine Action.Ends.guarded (compileArtifact_accounted confined firm named
      (List.mem_singleton_self _) firmOut wellFormed (by rw [← isOut, id]; rfl) content) fun r => ?_
    -- deleting the source does not fail, so the deletion of the script is scheduled
    have deleting : Action.Ends (s.Accounted start bound [out] [artifact.path])
        (delete artifact.path) fun c w => c = .ok () ∧
          s.Accounted start bound [out] [artifact.path] w :=
      fun w h => ⟨ok_delete led w, delete_accounted _ w h⟩
    refine Action.Ends.bind deleting (fun _ _ ⟨ok, _⟩ => by cases ok) fun _ => ?_
    refine (scheduleDelete_accounted out).weaken (fun _ ⟨_, h⟩ => h) ?_
    rintro c w ⟨rfl, h⟩
    exact h.forget
  · split
    · exact Action.Keeps.pure
    · rw [id]
      refine compileAnswer_accounted steady valid u ?_ _
      rw [← isOut, id, s.name_generatedPath u (by decide)]
      exact Text.encodable_append.2 ⟨encodable_id u, Text.encodable_lit _⟩

end

end Service

end CompileService
