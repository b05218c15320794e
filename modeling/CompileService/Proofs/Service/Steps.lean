import CompileService.Proofs.Toolchain
import CompileService.Service.Commands

/-!
# What the steps of a command keep

A command asks about files, writes to the log, writes its source, starts a process, and schedules
and carries out deletions. A property that these steps keep is kept by every part of a command that
is made of them, whichever way the part ends.

* `lookupIn_keeps`, `listModules_keeps`, `getModule_keeps`: what only asks and logs.
* `writeText_keeps`, `writeSource_keeps`: writing.
* `checkArtifact_keeps`, `compileArtifact_keeps`: the source is written and the toolchain runs.
* `checkAnswer_keeps`: the answer to a type check.
-/

namespace CompileService

theorem Action.Keeps.log {P : World → Prop} (logged : Toolchain.Unlogged P) (level : LogLevel)
    (source : String) (message : Text) : Action.Keeps P (Action.log level source message) :=
  Action.Ends.log fun w => logged w level source message

namespace Toolchain

variable {P : World → Prop} (tc : Toolchain) (runner : Runner)

/-- What records in the log and the process of a command line keep, running it keeps. -/
theorem run_keeps (logged : Unlogged P) {argv : List Text}
    (ran : ∀ w, P w → P (started w ⟨argv, tc.timeout⟩
      (runner w.calls.length ⟨argv, tc.timeout⟩ w.files).2)) :
    Action.Keeps P (tc.run runner argv) :=
  run_ends (Q := fun _ => P) _ _ _ logged ran fun outcome => judge_keeps logged _ outcome

theorem typecheck_keeps (logged : Unlogged P) {source : Text} {dirs : List Text}
    (ran : ∀ w, P w → P (started w ⟨tc.typecheckArgv source dirs, tc.timeout⟩
      (runner w.calls.length ⟨tc.typecheckArgv source dirs, tc.timeout⟩ w.files).2)) :
    Action.Keeps P (tc.typecheck runner source dirs) := by
  refine Action.Keeps.bind (run_keeps tc runner logged ran) fun result => ?_
  split
  · exact Action.Keeps.pure
  · exact Action.Keeps.pure

theorem compile_keeps (logged : Unlogged P) {source out : Text}
    (ran : ∀ w, P w → P (started w ⟨tc.compileArgv source out, tc.timeout⟩
      (runner w.calls.length ⟨tc.compileArgv source out, tc.timeout⟩ w.files).2)) :
    Action.Keeps P (tc.compile runner source out) := by
  refine Action.Keeps.bind (run_keeps tc runner logged ran) fun result => ?_
  split
  · exact Action.Keeps.pure
  · refine Action.Keeps.bind Action.Keeps.ask fun there => ?_
    split
    · exact Action.Keeps.pure
    · split
      · exact Action.Keeps.pure
      · exact Action.Keeps.pure

end Toolchain

namespace Service

variable {s : Service} {P : World → Prop}

/-! ## Modules -/

theorem rootsOf_keeps (scopes : List Text) : Action.Keeps P (s.rootsOf scopes) := by
  induction scopes with
  | nil => exact Action.Keeps.pure
  | cons scope more ih =>
      exact Action.Keeps.bind Action.Keeps.ask fun _ =>
        Action.Keeps.bind ih fun _ => Action.Keeps.pure

theorem readText_keeps (path : FilePath) : Action.Keeps P (Action.readText path) := by
  refine Action.Keeps.bind Action.Keeps.ask fun bytes => ?_
  split
  · exact Action.Keeps.pure
  · exact Action.Keeps.fail

theorem lookupIn_keeps (name file : Text) (dirs : List FilePath) :
    Action.Keeps P (lookupIn name file dirs) := by
  induction dirs with
  | nil => exact Action.Keeps.pure
  | cons dir more ih =>
      refine Action.Keeps.bind Action.Keeps.ask fun there => ?_
      split
      · exact Action.Keeps.bind (readText_keeps _) fun _ => Action.Keeps.pure
      · exact ih

theorem examine_keeps (levels : Nat) (dir : FilePath) (places : List Location) :
    Action.Keeps P (examine levels dir places) := by
  induction places with
  | nil => exact Action.Keeps.pure
  | cons place more ih =>
      rw [examine]
      split
      · exact Action.Keeps.fail
      · exact Action.Keeps.bind Action.Keeps.ask fun _ => ih

/-- Listing modules asks about files, and writes to the log where a scope has no root. -/
theorem listModules_keeps (logged : Toolchain.Unlogged P) (scope : Text) :
    Action.Keeps P (s.listModules scope) := by
  refine Action.Keeps.bind Action.Keeps.ask fun there => ?_
  split
  · refine Action.Keeps.bind ?_ fun _ => Action.Keeps.pure
    exact Action.Keeps.bind Action.Keeps.ask fun folder =>
      Action.Keeps.bind (examine_keeps _ _ _) fun _ => Action.Keeps.pure
  · exact Action.Keeps.bind (Action.Keeps.log logged _ _ _) fun _ => Action.Keeps.pure

/-- Looking up a module only asks about files. -/
theorem getModule_keeps (name : Text) : Action.Keeps P (s.getModule name) := by
  unfold getModule
  split
  · exact Action.Keeps.bind (rootsOf_keeps _) fun dirs => lookupIn_keeps _ _ dirs
  · exact Action.Keeps.pure

/-! ## Sources -/

theorem writeText_keeps {path : FilePath}
    (stored : ∀ bytes, Action.Keeps P
      (Action.change path fun files p => FileTree.storeFile files p bytes)) (t : Text) :
    Action.Keeps P (Action.writeText path t) := by
  unfold Action.writeText
  split
  · exact stored _
  · exact Action.Keeps.bind (stored []) fun _ => Action.Keeps.fail

/-- What writing a text keeps, writing a source keeps: it only answers instead of failing. -/
theorem writeSource_keeps {path : FilePath} {source : Text}
    (written : Action.Keeps P (Action.attempt (Action.writeText path source))) :
    Action.Keeps P (writeSource path source) := by
  refine Action.Keeps.bind written fun r => ?_
  split
  · exact Action.Keeps.pure
  · exact Action.Keeps.pure
  · exact Action.Keeps.fail

variable {artifact : Artifact} {source : Text}

theorem checkArtifact_keeps (logged : Toolchain.Unlogged P)
    (written : Action.Keeps P (writeSource artifact.path source))
    (checked : ∀ dirs, Action.Keeps P
      (s.toolchain.typecheck s.runner artifact.path.toText dirs)) :
    Action.Keeps P (s.checkArtifact artifact source) := by
  refine Action.Keeps.bind written fun rejected => ?_
  split
  · exact Action.Keeps.bind (Action.Keeps.log logged _ _ _) fun _ => Action.Keeps.pure
  · refine Action.Keeps.bind ?_ fun dirs => ?_
    · exact Action.Keeps.bind (rootsOf_keeps _) fun _ => Action.Keeps.pure
    · exact Action.Keeps.bind (checked dirs) fun _ => Action.Keeps.pure

theorem compileArtifact_keeps (logged : Toolchain.Unlogged P) {out : FilePath}
    (written : Action.Keeps P (writeSource artifact.path source))
    (compiled : Action.Keeps P
      (s.toolchain.compile s.runner artifact.path.toText out.toText)) :
    Action.Keeps P (s.compileArtifact artifact out source) := by
  refine Action.Keeps.bind written fun rejected => ?_
  split
  · exact Action.Keeps.bind (Action.Keeps.log logged _ _ _) fun _ => Action.Keeps.pure
  · exact Action.Keeps.bind compiled fun _ => Action.Keeps.pure

theorem checkAnswer_keeps (logged : Toolchain.Unlogged P) (id : Text) (lineSkip : Nat)
    (result : ToolchainResult) : Action.Keeps P (checkAnswer id lineSkip result) := by
  unfold checkAnswer
  split
  · exact Action.Keeps.pure
  · exact Action.Keeps.bind (Action.Keeps.log logged _ _ _) fun _ => Action.Keeps.pure
  · exact Action.Keeps.bind Action.Keeps.ofExcept fun _ =>
      Action.Keeps.bind (Action.Keeps.log logged _ _ _) fun _ => Action.Keeps.pure

end Service

end CompileService
