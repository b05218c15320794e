import CompileService.Proofs.Service.CompileMeaning
import CompileService.Proofs.Service.Requests
import Mathlib.Logic.Relation

/-!
# The effects of a request

A request asks for an identifier and goes on to change the world in a few kinds of ways: it writes
to the log, it changes files of its own, it schedules their deletion, it makes the directory of
public files, and it starts a process. What each of these changes leaves as it is, the request does.

* `Effect`: one change. `Reached`: a row of them.
* `checkModule_effects`, `compileModule_effects`: a request has no artifact, or it is such a row
  after the identifier was drawn.
-/

namespace CompileService.Service

variable (s : Service) (kind : Request.Kind) (u : Uuid)

/-- The paths of the files that are a request's own. -/
def ownPaths : Request.Kind → List FilePath
  | .check => [s.sourcePath u]
  | .compile => [s.sourcePath u, s.scriptPath u, s.pagePath u]

/-- The process of a type check that searches the given directories. -/
def checkLaunchOn (dirs : List Text) : Launch :=
  ⟨s.toolchain.typecheckArgv (s.sourcePath u).toText dirs, s.toolchain.timeout⟩

/-- The processes that a request may start. -/
def Launches : Request.Kind → Launch → Prop
  | .check, launch => ∃ dirs, launch = s.checkLaunchOn u dirs
  | .compile, launch => launch = s.compileLaunch u

/-- A change that a request makes to the world. -/
inductive Effect : World → World → Prop
  | logged (w : World) (level : LogLevel) (source : String) (message : Text) :
      Effect w (w.logged level source message)
  | changed {w : World} {path : FilePath} {rule : FileTree.LeafRule} {files : Folder}
      (own : path ∈ s.ownPaths u kind) (applied : rule.applyAt w.files path = .ok files) :
      Effect w { w with files := files }
  | scheduled {w : World} {path : FilePath} (own : path ∈ s.ownPaths u kind) :
      Effect w (s.readied w path w.files)
  | madeDirs (w : World) (compiling : kind = .compile) :
      Effect w { w with files := (FileTree.makeDirs w.files s.genDir).1 }
  | started {w : World} {launch : Launch} (own : s.Launches u kind launch) :
      Effect w (Toolchain.started w launch (s.runner w.calls.length launch w.files).2)

/-- A world that a row of changes leads to. -/
def Reached (v w : World) : Prop := Relation.ReflTransGen (s.Effect kind u) v w

section
variable {s kind u} {v w : World}

theorem Reached.refl (v : World) : s.Reached kind u v v := Relation.ReflTransGen.refl

theorem Reached.next {w' : World} (reached : s.Reached kind u v w) (effect : s.Effect kind u w w') :
    s.Reached kind u v w' := Relation.ReflTransGen.tail reached effect

/-! ## Actions -/

variable (v)

theorem unlogged_reached : Toolchain.Unlogged (s.Reached kind u v) :=
  fun _ level source message reached => reached.next (.logged _ level source message)

theorem store_reached {path : FilePath} (own : path ∈ s.ownPaths u kind) (bytes : List UInt8) :
    Action.Keeps (s.Reached kind u v)
      (Action.change path fun files p => FileTree.storeFile files p bytes) := by
  refine Action.Ends.change ?_ fun _ _ reached _ => reached
  intro w files reached stored
  rw [FileTree.storeFile_eq] at stored
  exact reached.next (.changed own stored)

theorem writeText_reached {path : FilePath} (own : path ∈ s.ownPaths u kind) (t : Text) :
    Action.Keeps (s.Reached kind u v) (Action.writeText path t) :=
  writeText_keeps (store_reached v own) t

theorem writeSource_reached {path : FilePath} (own : path ∈ s.ownPaths u kind) (source : Text) :
    Action.Keeps (s.Reached kind u v) (writeSource path source) :=
  writeSource_keeps (Action.Keeps.attempt (writeText_reached v own source))

theorem delete_reached {path : FilePath} (own : path ∈ s.ownPaths u kind) :
    Action.Keeps (s.Reached kind u v) (delete path) := by
  intro w reached
  rw [run_delete]
  cases dropped : FileTree.dropFile w.files path with
  | ok files =>
      rw [FileTree.dropFile_eq] at dropped
      exact reached.next (.changed own dropped)
  | error fault =>
      split
      · cases ‹Except.error fault = Except.ok _›
      · exact reached
      · exact reached.next (.logged _ _ _ _)
      · exact reached

theorem scheduleDelete_reached {path : FilePath} (own : path ∈ s.ownPaths u kind) :
    Action.Keeps (s.Reached kind u v) (s.scheduleDelete path) := by
  intro w reached
  rw [s.run_scheduleDelete]
  exact reached.next (.scheduled own)

theorem ensureDirs_reached (compiling : kind = .compile) :
    Action.Keeps (s.Reached kind u v) s.ensureDirs := by
  intro w reached
  rw [ensureDirs, run_makeDirs]
  exact reached.next (.madeDirs w compiling)

/-! ## Type checks -/

theorem checkArtifact_reached (source : Text) :
    Action.Keeps (s.Reached .check u v)
      (s.checkArtifact ⟨u.toText, s.sourcePath u⟩ source) :=
  checkArtifact_keeps (unlogged_reached v) (writeSource_reached v (List.mem_singleton_self _) source)
    fun dirs => Toolchain.typecheck_keeps _ _ (unlogged_reached v) fun _ reached =>
      reached.next (.started ⟨dirs, rfl⟩)

/-! ## Compilations -/

theorem compileArtifact_reached (source : Text) :
    Action.Keeps (s.Reached .compile u v)
      (s.compileArtifact ⟨u.toText, s.sourcePath u⟩ (s.scriptPath u) source) := by
  have own : s.sourcePath u ∈ s.ownPaths u .compile := by simp [ownPaths]
  exact compileArtifact_keeps (unlogged_reached v) (writeSource_reached v own source)
    (Toolchain.compile_keeps _ _ (unlogged_reached v) fun _ reached =>
      reached.next (.started rfl))

theorem compileAnswer_reached (script : Text) (result : ToolchainResult) :
    Action.Keeps (s.Reached .compile u v) (s.compileAnswer u.toText script result) := by
  have own : s.generatedPath u.toText (lit ".html") ∈ s.ownPaths u .compile := by
    rw [← pagePath]
    simp [ownPaths]
  unfold compileAnswer
  split
  · exact Action.Keeps.pure
  · exact Action.Keeps.bind (Action.Keeps.log (unlogged_reached v) _ _ _) fun _ => Action.Keeps.pure
  · refine Action.Keeps.bind ?_ fun _ =>
      Action.Keeps.bind (Action.Keeps.log (unlogged_reached v) _ _ _) fun _ => Action.Keeps.pure
    exact Action.Keeps.bind (writeText_reached v own _) fun _ =>
      Action.Keeps.bind (scheduleDelete_reached v own) fun _ => Action.Keeps.pure

end

/-! ## Requests -/

/-- What a request does to the world: it draws identifiers; and if it has its artifact, all that it
does then is a row of changes. -/
def Effected (kind : Request.Kind) (w after : World) : Prop :=
  (∃ failure, (s.newArtifact s.settings.sourceExtension).run w = (.error failure, after) ∧
    Waited w after) ∨
  ∃ u v x, (s.newArtifact s.settings.sourceExtension).run w = (.ok ⟨u.toText, s.sourcePath u⟩, x) ∧
    Waited w v ∧ s.Drew u w v ∧ s.Reached kind u v after

section
variable {s} {w : World}

/-- A request that begins with an artifact. -/
theorem effected_of_rest {kind : Request.Kind} {rest : Artifact → Action Response}
    (source : ∀ u, s.sourcePath u ∈ s.ownPaths u kind)
    (next : ∀ u v, Action.Keeps (s.Reached kind u v) (rest ⟨u.toText, s.sourcePath u⟩)) :
    s.Effected kind w
      ((s.newArtifact s.settings.sourceExtension >>= rest).run w).2 := by
  rw [Action.run_bind]
  rcases s.newArtifact_cases s.settings.sourceExtension w with
    ⟨failure, v, run, waited⟩ | ⟨u, v, files, waited, drew, created, run⟩
  · rw [run]
    exact .inl ⟨failure, run, waited⟩
  · have same : v.files = w.files := by
      obtain ⟨_, _, _, rfl⟩ := waited
      rfl
    rw [← sourcePath] at created run
    rw [FileTree.createFile_eq, ← same] at created
    have first := (Reached.refl v).next (.changed (source u) created)
    refine .inr ⟨u, v, _, run, waited, drew, ?_⟩
    rw [run]
    exact next u v _ first

theorem checkModule_effects (content : Text) :
    s.Effected .check w ((s.checkModule content).run w).2 := by
  refine effected_of_rest (fun u => List.mem_singleton_self _) fun u v => ?_
  have own : s.sourcePath u ∈ s.ownPaths u .check := List.mem_singleton_self _
  refine Action.Keeps.bind (scheduleDelete_reached v own) fun _ => ?_
  refine Action.Keeps.bind
    (Action.Keeps.guarded (checkArtifact_reached v _) (delete_reached v own)) fun answer => ?_
  split
  · exact Action.Keeps.pure
  · exact checkAnswer_keeps (unlogged_reached v) _ _ _

theorem compileModule_effects (content : Text) :
    s.Effected .compile w ((s.compileModule content).run w).2 := by
  have source : ∀ u, s.sourcePath u ∈ s.ownPaths u .compile := fun u => by simp [ownPaths]
  refine effected_of_rest source fun u v => ?_
  have script : s.scriptPath u ∈ s.ownPaths u .compile := by simp [ownPaths]
  refine Action.Keeps.bind (scheduleDelete_reached v (source u)) fun _ => ?_
  refine Action.Keeps.bind (ensureDirs_reached v rfl) fun _ => ?_
  rw [← scriptPath]
  refine Action.Keeps.bind (Action.Keeps.guarded (compileArtifact_reached v _) ?_) fun answer => ?_
  · exact Action.Keeps.bind (delete_reached v (source u)) fun _ => scheduleDelete_reached v script
  · split
    · exact Action.Keeps.pure
    · exact compileAnswer_reached v _ _

end

end CompileService.Service
