import CompileService.Proofs.Service.CheckMeaning
import CompileService.Proofs.Service.CompileMeaning

/-!
# The process of a request

A request starts at most one process, and starts it on the source that it has written: the command
line names the source, which holds what was submitted, and the deletion of the source is the last
one that was scheduled.

* `StartedOn`: a process that a request has started.
* `checkModule_starts`, `compileModule_starts`: no process is started, or one in this way.
-/

namespace CompileService.Service

/-- The process was started for a request that began in the given world, on the source that is its
artifact. -/
structure StartedOn (s : Service) (u : Uuid) (source : Text) (w : World) (call : Call) :
    Prop where
  made : ∃ v, (s.newArtifact s.settings.sourceExtension).run w = (.ok ⟨u.toText, s.sourcePath u⟩, v)
  named : (s.sourcePath u).toText ∈ call.launch.argv
  limit : call.launch.timeout = s.settings.toolchainTimeout
  now : call.startedAt = w.clock
  timers : call.timers = w.timers ++ [⟨s.sourcePath u, s.expiry w.clock⟩]
  held : FileTree.fileContent call.files (s.sourcePath u) = .ok (Utf8.encodeAll source)

section
variable {s : Service} {u : Uuid} {w v : World}

theorem calls_of_unmade {ext : Text} {failure : Failure}
    (unmade : (s.newArtifact ext).run w = (.error failure, v)) : v.calls = w.calls := by
  obtain ⟨_, _, -, rfl⟩ := s.waited_of_unmade unmade
  rfl

/-- A process that is started after the artifact was made and its deletion scheduled. -/
theorem startedOn_of_ran
    (made : (s.newArtifact s.settings.sourceExtension).run w = (.ok ⟨u.toText, s.sourcePath u⟩, v))
    {launch : Launch} {source : Text} {files before : Folder} {bytes : List UInt8}
    (encoded : Utf8.encode source = .ok bytes)
    (stored : FileTree.storeFile before (s.sourcePath u) bytes = .ok files)
    (named : (s.sourcePath u).toText ∈ launch.argv)
    (limit : launch.timeout = s.settings.toolchainTimeout) :
    s.StartedOn u source w
      ⟨launch, v.clock, files, v.timers ++ [⟨s.sourcePath u, s.expiry v.clock⟩]⟩ where
  made := ⟨v, made⟩
  named := named
  limit := limit
  now := (made_of_newArtifact made).clock
  timers := by
    dsimp only
    rw [(made_of_newArtifact made).timers, (made_of_newArtifact made).clock]
  held := by
    rw [← Utf8.eq_encodeAll_of_encode encoded]
    exact FileTree.fileContent_storeFile stored

/-! ## Type checks -/

theorem run_checkModule_of_unmade (content : Text) {failure : Failure}
    (unmade : (s.newArtifact s.settings.sourceExtension).run w = (.error failure, v)) :
    (s.checkModule content).run w = (.error failure, v) := by
  unfold checkModule
  rw [Action.run_bind, unmade]

/-- A type check starts no process; or it starts one on its source, whose end decides the answer. -/
theorem checkModule_starts (s : Service) (w : World) (content : Text) :
    ((s.checkModule content).run w).2.calls = w.calls ∨
      ∃ (u : Uuid) (call : Call),
        ((s.checkModule content).run w).2.calls = w.calls ++ [call] ∧
        s.StartedOn u (s.checkSource content) w call ∧
        ((s.checkModule content).run w).1 =
          ((Toolchain.verdict call.launch (s.runner w.calls.length call.launch call.files).1).map
            Toolchain.checked).bind (answerOf u.toText s.settings.preludeLines.length) := by
  rcases made : (s.newArtifact s.settings.sourceExtension).run w with ⟨failure | artifact, v⟩
  · rw [run_checkModule_of_unmade content made]
    exact .inl (calls_of_unmade made)
  obtain ⟨u, rfl⟩ := artifact_of_made made
  cases encoded : Utf8.encode (s.checkSource content) with
  | error fault =>
      have fresh : Fresh ⟨u.toText, s.sourcePath u⟩ (s.readied v (s.sourcePath u) v.files) :=
        ⟨(fresh_of_newArtifact made).there⟩
      rw [(checkModule_result content made).2, (checkArtifact_of_unencodable fresh encoded).2]
      exact .inl (made_of_newArtifact made).calls
  | ok bytes =>
      obtain ⟨files, stored⟩ := (fresh_of_newArtifact made).store bytes
      rcases checkModule_of_stored content made encoded stored with
        ⟨-, answer, calls⟩ | ⟨-, -, calls⟩
      · refine .inr ⟨u, _, calls, startedOn_of_ran made encoded stored ?_ rfl, answer⟩
        simp [checkLaunch, Toolchain.typecheckArgv]
      · exact .inl calls

/-! ## Compilations -/

theorem calls_compileAnswer (id script : Text) (result : ToolchainResult) (y : World) :
    ((s.compileAnswer id script result).run y).2.calls = y.calls := by
  rcases result with ⟨status, output⟩
  cases status with
  | unavailable => rfl
  | failed => exact World.logged_calls _ _ _ _
  | ok =>
      unfold compileAnswer
      dsimp only
      rw [Action.run_bind]
      rcases s.emitPreview_cases id script y with
        ⟨_, files, -, -, run⟩ | ⟨failure, files, run, -⟩
      · rw [run]
        exact World.logged_calls (s.readied y _ files) _ _ _
      · rw [run]

/-- A compilation starts no process, or starts one on its source. -/
theorem compileModule_starts (s : Service) (w : World) (content : Text) :
    ((s.compileModule content).run w).2.calls = w.calls ∨
      ∃ (u : Uuid) (call : Call),
        ((s.compileModule content).run w).2.calls = w.calls ++ [call] ∧
        s.StartedOn u content w call := by
  rcases made : (s.newArtifact s.settings.sourceExtension).run w with ⟨failure | artifact, v⟩
  · rw [(compileModule_of_unmade content made).1]
    exact .inl (calls_of_unmade made)
  obtain ⟨u, rfl⟩ := artifact_of_made made
  have kept : v.calls = w.calls := (made_of_newArtifact made).calls
  -- without the directory of public files no process is started either
  rcases dirs : (FileTree.makeDirs v.files s.genDir).2 with _ | ⟨at_, fault⟩
  · obtain ⟨x, deleted, run⟩ := run_compileModule content made dirs
    -- neither the cleanup nor the answer starts a process
    have calls : ((s.compileModule content).run w).2.calls = x.calls := by
      rw [run]
      split
      · rfl
      · rfl
      · exact calls_compileAnswer _ _ _ _
    rw [calls, deleted.calls, ← scriptPath]
    have fresh : Fresh ⟨u.toText, s.sourcePath u⟩
        (s.readied v (s.sourcePath u) (FileTree.makeDirs v.files s.genDir).1) :=
      (fresh_of_newArtifact made).grown (FileTree.makeDirs_grown _ _)
    cases encoded : Utf8.encode content with
    | error fault =>
        obtain ⟨files, stored⟩ := fresh.store []
        rw [compileArtifact_rejects encoded stored]
        exact .inl ((World.logged_calls _ _ _ _).trans kept)
    | ok bytes =>
        obtain ⟨files, stored⟩ := fresh.store bytes
        obtain ⟨-, ran⟩ := compileArtifact_runs encoded stored
        refine .inr ⟨u, _, ran.calls.trans (congrArg (· ++ [_]) kept), ?_⟩
        exact startedOn_of_ran made encoded stored
          (List.mem_of_getLast? (s.last_compileLaunch u)) rfl
  · rw [run_compileModule_of_refused content made dirs]
    exact .inl kept

end

end CompileService.Service
