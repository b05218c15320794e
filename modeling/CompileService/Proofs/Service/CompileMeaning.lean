import CompileService.Proofs.Service.Release

/-!
# What a compilation comes to

A compilation that is answered has run one process on a file that held the source, or none for a
source without UTF-8 form. When it is answered the source is gone; and either the script is there
with a page that loads it, or no page was written and the answer says why.

* `SourceApart`, `Considerate`: sources lie apart from scripts and pages, and compilations leave
  their sources and the pages alone.
* `Tried`: the world when the cleanup begins. `compileArtifact_cases`: the two ways to get there.
* `Finished`, `Declined`: what the two kinds of answers stand for.
* `compileModule_returns`: every answer is of one of the two kinds.
-/

namespace CompileService.Service

/-! ## The files of a compilation -/

section
variable (s : Service) (u : Uuid)

/-- The path of a source. -/
@[irreducible]
def sourcePath : FilePath := s.tempPath u.toText s.settings.sourceExtension

/-- The path of a script. -/
@[irreducible]
def scriptPath : FilePath := s.generatedPath u.toText (lit ".js")

/-- The path of a page. -/
@[irreducible]
def pagePath : FilePath := s.generatedPath u.toText (lit ".html")

/-- The process of a compilation. -/
def compileLaunch : Launch :=
  ⟨s.toolchain.compileArgv (s.sourcePath u).toText (s.scriptPath u).toText, s.toolchain.timeout⟩

theorem last_compileLaunch :
    (s.compileLaunch u).argv.getLast? = some (s.sourcePath u).toText := by
  rw [compileLaunch, Toolchain.compileArgv, List.getLast?_append]
  rfl

/-- No source has the place of its script or of its page. -/
def SourceApart : Prop :=
  ∀ u, (s.sourcePath u).Distinct (s.scriptPath u) ∧ (s.sourcePath u).Distinct (s.pagePath u)

/-- Processes of compilations leave alone what is not theirs: the path of the source goes on leading
to its bytes, and no page is written. -/
structure Considerate : Prop where
  source : ∀ n u files bytes, FileTree.fileContent files (s.sourcePath u) = .ok bytes →
    FileTree.fileContent (s.runner n (s.compileLaunch u) files).2 (s.sourcePath u) = .ok bytes
  page : ∀ n u files,
    FileTree.Unwritten (s.pagePath u) files (s.runner n (s.compileLaunch u) files).2

/-- A page lies apart from its script. -/
theorem apart_pagePath_scriptPath : (s.pagePath u).Distinct (s.scriptPath u) := by
  intro same
  rw [pagePath, scriptPath, s.generatedPath_eq u (by decide), s.generatedPath_eq u (by decide),
    FilePath.home_name _ (up_ne_name u _), FilePath.home_name _ (up_ne_name u _)] at same
  have extension : lit ".html" ≠ lit ".js" := by decide
  exact extension (List.append_cancel_left (List.singleton_inj.1 (List.append_cancel_left same)))

variable {s}

/-- Where the extension of sources has no slash, sources lie apart from scripts and pages, if the
directories do. -/
theorem sourceApart_of_dirs (dirs : s.tempDir.Distinct s.genDir)
    (noSlash : FilePath.slash ∉ s.settings.sourceExtension) : s.SourceApart := by
  intro u
  have source : s.sourcePath u =
      { s.tempDir with parts := s.tempDir.parts ++ [u.toText ++ s.settings.sourceExtension] } := by
    rw [sourcePath, tempPath, FilePath.join_name _ (isPart_id u noSlash)]
  have names : ∀ {ext : Text}, FilePath.slash ∉ ext →
      (s.sourcePath u).Distinct (s.generatedPath u.toText ext) := by
    intro ext free
    rw [source, s.generatedPath_eq u free]
    exact dirs.names (up_ne_name u _) (up_ne_name u _)
  rw [scriptPath, pagePath]
  exact ⟨names (by decide), names (by decide)⟩

/-- An artifact is named after an identifier. -/
theorem artifact_of_made {w v : World} {artifact : Artifact}
    (made : (s.newArtifact s.settings.sourceExtension).run w = (.ok artifact, v)) :
    ∃ u : Uuid, artifact = ⟨u.toText, s.sourcePath u⟩ := by
  obtain ⟨⟨u, id, -⟩, path, -, -, -, -⟩ := made_of_newArtifact made
  refine ⟨u, ?_⟩
  rw [id] at path
  rcases artifact with ⟨_, _⟩
  rw [Artifact.mk.injEq, sourcePath]
  exact ⟨id, path⟩

end

/-! ## Up to the cleanup -/

section
variable (s : Service) (u : Uuid) (content : Text) (w : World)

/-- The world when the cleanup of a compilation begins: the path of the source leads to a file, no
page was written, and the deletion of the source is pending. -/
structure Tried (t : World) : Prop where
  source : ∃ bytes, FileTree.fileContent t.files (s.sourcePath u) = .ok bytes
  unwritten : FileTree.Unwritten (s.pagePath u) w.files t.files
  clock : t.clock = w.clock
  timers : t.timers = w.timers ++ [⟨s.sourcePath u, s.expiry w.clock⟩]

/-- One process was started, on a file that held the content. -/
structure Started (after : World) (call : Call) : Prop where
  alone : after.calls = w.calls ++ [call]
  launch : call.launch = s.compileLaunch u
  last : call.launch.argv.getLast? = some (s.sourcePath u).toText
  held : FileTree.fileContent call.files (s.sourcePath u) = .ok (Utf8.encodeAll content)

end

section
variable {s : Service} {u : Uuid} {content : Text} {w v : World}

/-- The source is written, with any bytes, after the directory of public files was made. -/
theorem tried_of_stored (apart : s.SourceApart)
    (made : (s.newArtifact s.settings.sourceExtension).run w = (.ok ⟨u.toText, s.sourcePath u⟩, v))
    {bytes : List UInt8} {files : Folder}
    (stored : FileTree.storeFile (FileTree.makeDirs v.files s.genDir).1 (s.sourcePath u) bytes =
      .ok files) : s.Tried u w (s.readied v (s.sourcePath u) files) where
  source := ⟨bytes, FileTree.fileContent_storeFile stored⟩
  unwritten := by
    have new := (made_of_newArtifact made).files
    dsimp only at new
    have created := FileTree.Unwritten.createFile (apart u).2 new
    have grown : FileTree.Unwritten (s.pagePath u) v.files (FileTree.makeDirs v.files s.genDir).1 :=
      FileTree.Unwritten.of_grown (FileTree.makeDirs_grown _ _)
    have written := FileTree.Unwritten.storeFile (apart u).2 stored
    exact (created.trans grown).trans written
  clock := (made_of_newArtifact made).clock
  timers := by
    rw [readied_timers, (made_of_newArtifact made).timers, (made_of_newArtifact made).clock]

/-- A source without UTF-8 form is rejected, and no process is started. -/
theorem compileArtifact_rejects {artifact : Artifact} {out : FilePath}
    {fault : Utf8.Unencodable} {files : Folder}
    (unencodable : Utf8.encode content = .error fault)
    (stored : FileTree.storeFile v.files artifact.path [] = .ok files) :
    (s.compileArtifact artifact out content).run v =
      (.ok (.inl (.compileFailed (rejection fault))),
        { v with files := files }.logged LogLevel.info commandLog
          (lit "Compile " ++ artifact.id ++ lit " rejected: " ++ rejection fault)) := by
  unfold compileArtifact
  rw [Action.run_bind, run_writeSource_of_unencodable unencodable stored]
  rfl

/-- A source that is written is compiled by one process. -/
theorem compileArtifact_runs {bytes : List UInt8} {files : Folder}
    (encoded : Utf8.encode content = .ok bytes)
    (stored : FileTree.storeFile v.files (s.sourcePath u) bytes = .ok files) :
    let launch := s.compileLaunch u
    let ended := s.runner v.calls.length launch files
    let run := (s.compileArtifact ⟨u.toText, s.sourcePath u⟩ (s.scriptPath u) content).run v
    run.1 = ((Toolchain.verdict launch ended.1).bind
        (s.toolchain.compiled ended.2 (s.scriptPath u))).map .inr ∧
      Toolchain.Ran s.runner launch { v with files := files } run.2 := by
  obtain ⟨result, ran⟩ := Toolchain.compile_outcome s.toolchain s.runner (s.sourcePath u).toText
    (s.scriptPath u).toText { v with files := files }
  have named : FilePath.ofText (s.scriptPath u).toText = s.scriptPath u := by
    rw [scriptPath, FilePath.ofText_toText (s.wellFormed_generatedPath _ _)]
  rw [named] at result
  unfold compileArtifact
  dsimp only at result ⊢
  rw [Action.run_bind, run_writeSource encoded stored]
  dsimp only
  rw [Action.run_bind]
  unfold compileLaunch
  rw [← result]
  rcases ended : (s.toolchain.compile s.runner (s.sourcePath u).toText
    (s.scriptPath u).toText).run _ with ⟨failure | found, x⟩
  · rw [ended] at ran
    exact ⟨rfl, ran⟩
  · rw [ended] at ran
    exact ⟨rfl, ran⟩

variable (content) in
/-- A compilation comes to its cleanup with the source rejected, or after one process. -/
theorem compileArtifact_cases (apart : s.SourceApart) (considerate : s.Considerate)
    (made : (s.newArtifact s.settings.sourceExtension).run w =
      (.ok ⟨u.toText, s.sourcePath u⟩, v)) :
    let body := (s.compileArtifact ⟨u.toText, s.sourcePath u⟩ (s.scriptPath u) content).run
      (s.readied v (s.sourcePath u) (FileTree.makeDirs v.files s.genDir).1)
    s.Tried u w body.2 ∧
      ((∃ fault, Utf8.encode content = .error fault ∧
          body.1 = .ok (.inl (.compileFailed (rejection fault))) ∧ body.2.calls = w.calls) ∨
        ∃ call, s.Started u content w body.2 call ∧
          body.2.files = (s.runner w.calls.length call.launch call.files).2 ∧
          body.1 = ((Toolchain.verdict call.launch
              (s.runner w.calls.length call.launch call.files).1).bind
            (s.toolchain.compiled body.2.files (s.scriptPath u))).map .inr) := by
  dsimp only
  have fresh : Fresh ⟨u.toText, s.sourcePath u⟩
      (s.readied v (s.sourcePath u) (FileTree.makeDirs v.files s.genDir).1) :=
    (fresh_of_newArtifact made).grown (FileTree.makeDirs_grown _ _)
  have calls : v.calls = w.calls := (made_of_newArtifact made).calls
  -- either way the source is there for the cleanup to delete
  cases encoded : Utf8.encode content with
  | error fault =>
      obtain ⟨files, stored⟩ := fresh.store []
      have tried := tried_of_stored apart made stored
      rw [compileArtifact_rejects encoded stored]
      refine ⟨⟨?_, ?_, ?_, ?_⟩, .inl ⟨fault, rfl, rfl, ?_⟩⟩
      · simpa using tried.source
      · simpa using tried.unwritten
      · simpa using tried.clock
      · simpa using tried.timers
      · simpa using calls
  | ok bytes =>
      obtain ⟨files, stored⟩ := fresh.store bytes
      have tried := tried_of_stored apart made stored
      obtain ⟨result, ran⟩ := compileArtifact_runs encoded stored
      have held := FileTree.fileContent_storeFile stored
      obtain ⟨left, started, clock, timers⟩ := ran
      simp only [readied_calls, readied_clock, readied_timers, calls]
        at result left started clock timers
      refine ⟨⟨?_, ?_, ?_, ?_⟩, .inr ⟨_, ⟨started, rfl, s.last_compileLaunch u, ?_⟩, left, ?_⟩⟩
      · -- the process may write what it likes but for source and page
        rw [left]
        exact ⟨bytes, considerate.source _ u files bytes held⟩
      · rw [left]
        exact tried.unwritten.trans (considerate.page _ u files)
      · rw [clock]
        exact tried.clock
      · rw [timers]
        exact tried.timers
      · rw [held, Utf8.eq_encodeAll_of_encode encoded]
      · rw [result, left]

end

/-! ## The answers -/

section
variable (s : Service) (u : Uuid)

/-- Why a process has no script for its answer: it did not exit, it exited with another status than
zero, or there is no script although it exited with zero. -/
inductive Refused (left : Folder) : Outcome → Response → Prop
  | timedOut : Refused left .timedOut
      (.toolchainUnavailable (Toolchain.timeoutReason (s.compileLaunch u)))
  | notStarted (fault : LaunchFault) : Refused left (.notStarted fault)
      (.toolchainUnavailable (Toolchain.refusalReason (s.compileLaunch u) fault))
  | failed {status : Int} {output : Option Text} (nonzero : status ≠ 0) :
      Refused left (.exited status output) (.compileFailed (output.getD []))
  | scriptless {output : Option Text} (said : output.getD [] ≠ [])
      (missing : FileTree.pathExists left (s.scriptPath u) = .ok false) :
      Refused left (.exited 0 output) (.compileFailed (output.getD []))
  | silent {output : Option Text} (silence : output.getD [] = [])
      (missing : FileTree.pathExists left (s.scriptPath u) = .ok false) :
      Refused left (.exited 0 output)
        (.compileFailed (s.settings.compileCommand ++ lit " produced no output file"))

/-- Why a compilation is declined: its source has no UTF-8 form, and then no process was started; or
its process is refused. -/
inductive Declined (content : Text) (w after : World) : Response → Prop
  | unencodable {before : Text} {c : CodePoint} {rest : Text}
      (split : content = before ++ c :: rest) (valid : before.Encodable)
      (surrogate : c.isSurrogate = true)
      (idle : after.calls = w.calls) :
      Declined content w after (.compileFailed
        (lit "Source is not valid Unicode text at position " ++ Text.ofNat before.length ++
          lit ": surrogates not allowed"))
  | refused {call : Call} {response : Response} (started : s.Started u content w after call)
      (why : s.Refused u (s.runner w.calls.length call.launch call.files).2
        (s.runner w.calls.length call.launch call.files).1 response) :
      Declined content w after response

variable {s u} in
theorem Declined.ne_compileOk {content : Text} {w after : World} {response : Response}
    (declined : s.Declined u content w after response) (id : Text) : response ≠ .compileOk id := by
  rintro rfl
  cases declined with
  | refused started why =>
      generalize (s.runner _ _ _).1 = outcome at why
      cases why

/-- What a compilation that succeeds leaves: one process was started, the script is there, the page
holds what loads it, and the deletions of source, script and page are pending. -/
structure Finished (content : Text) (w after : World) : Prop where
  started : ∃ call, s.Started u content w after call
  script : FileTree.pathExists after.files (s.scriptPath u) = .ok true
  page : FileTree.fileContent after.files (s.pagePath u) =
    .ok (Utf8.encodeAll (Preview.render (u.toText ++ lit ".js") s.settings.previewStylesheets
      s.settings.previewScripts))
  timers : after.timers = w.timers ++ [⟨s.sourcePath u, s.expiry w.clock⟩,
    ⟨s.scriptPath u, s.expiry w.clock⟩, ⟨s.pagePath u, s.expiry w.clock⟩]

end

section
variable {s : Service} {u : Uuid} {content : Text} {w : World}

/-- A result of a compilation is a success with a script, or stands for a refusal. -/
theorem refused_of_compiled {left : Folder} {outcome : Outcome} {result : ToolchainResult}
    (judged : (Toolchain.verdict (s.compileLaunch u) outcome).bind
      (s.toolchain.compiled left (s.scriptPath u)) = .ok result) :
    (result.status = .ok → FileTree.pathExists left (s.scriptPath u) = .ok true) ∧
      (result.status = .failed → s.Refused u left outcome (.compileFailed result.output)) ∧
      (result.status = .unavailable →
        s.Refused u left outcome (.toolchainUnavailable result.output)) := by
  cases outcome with
  | timedOut =>
      obtain rfl := Except.ok.inj judged
      exact ⟨fun ok => (by cases ok), fun failed => (by cases failed), fun _ => .timedOut⟩
  | notStarted fault =>
      obtain rfl := Except.ok.inj judged
      exact ⟨fun ok => (by cases ok), fun failed => (by cases failed), fun _ => .notStarted fault⟩
  | crashed crash => cases judged
  | exited status output =>
      by_cases zero : status = 0
      · -- the process has ended well, so its script decides
        subst zero
        cases there : FileTree.pathExists left (s.scriptPath u) with
        | error fault => simp [Toolchain.verdict, Except.bind, Toolchain.compiled, there] at judged
        | ok found =>
            simp only [Toolchain.verdict, Except.bind, Toolchain.compiled, there, if_true,
              ne_eq, not_true_eq_false, if_false] at judged
            cases found with
            | true =>
                obtain rfl := Except.ok.inj judged
                exact ⟨fun _ => rfl, fun failed => (by cases failed), fun lost => (by cases lost)⟩
            | false =>
                obtain rfl := Except.ok.inj judged
                refine ⟨fun ok => (by cases ok), fun _ => ?_, fun lost => (by cases lost)⟩
                dsimp only
                split
                · exact .silent ‹_› there
                · exact .scriptless ‹_› there
      · simp only [Toolchain.verdict, zero, if_false, Except.bind, Toolchain.compiled, ne_eq,
          reduceCtorEq, not_false_eq_true, if_true, Except.ok.injEq] at judged
        subst judged
        exact ⟨fun ok => (by cases ok), fun _ => .failed zero, fun lost => (by cases lost)⟩

/-- An answer to the result of a compilation: a success has its page written and scheduled, and all
else changes the log only. -/
theorem compileAnswer_returned {id script : Text} {result : ToolchainResult} {response : Response}
    {y after : World} (returned : (s.compileAnswer id script result).run y = (.ok response, after)) :
    let page := s.generatedPath id (lit ".html")
    after.calls = y.calls ∧
      ((result.status = .ok ∧ response = .compileOk id ∧
          FileTree.storeFile y.files page (Utf8.encodeAll (s.pageText script)) = .ok after.files ∧
          after.timers = y.timers ++ [⟨page, s.expiry y.clock⟩]) ∨
        after.files = y.files ∧
          (result.status = .failed ∧ response = .compileFailed result.output ∨
            result.status = .unavailable ∧ response = .toolchainUnavailable result.output)) := by
  rcases result with ⟨status, output⟩
  unfold compileAnswer at returned
  cases status with
  | unavailable =>
      cases returned
      exact ⟨rfl, .inr ⟨rfl, .inr ⟨rfl, rfl⟩⟩⟩
  | failed =>
      cases returned
      exact ⟨World.logged_calls _ _ _ _, .inr ⟨World.logged_files _ _ _ _, .inl ⟨rfl, rfl⟩⟩⟩
  | ok =>
      dsimp only at returned
      rw [Action.run_bind] at returned
      -- a page that cannot be written is no answer
      rcases s.emitPreview_cases id script y with
        ⟨bytes, files, encoded, stored, run⟩ | ⟨failure, files, run, -⟩
      · rw [run] at returned
        dsimp only at returned
        cases returned
        rw [Utf8.eq_encodeAll_of_encode encoded] at stored
        refine ⟨?_, .inl ⟨rfl, rfl, ?_, ?_⟩⟩
        · exact World.logged_calls (s.readied y _ files) _ _ _
        · refine stored.trans (congrArg Except.ok ?_)
          exact (World.logged_files (s.readied y _ files) _ _ _).symm
        · exact World.logged_timers (s.readied y _ files) _ _ _
      · rw [run] at returned
        cases returned

/-! ## After the cleanup -/

/-- The cleanup removes the source, and the script goes on existing. -/
theorem released (apart : s.SourceApart) {t x : World} (tried : s.Tried u w t)
    (deleted : Deleted (s.sourcePath u) t x) :
    FileTree.Gone x.files (s.sourcePath u) ∧
      FileTree.Unwritten (s.pagePath u) w.files x.files ∧
      FileTree.pathExists x.files (s.scriptPath u) =
        FileTree.pathExists t.files (s.scriptPath u) := by
  -- the source was there, so the deletion has found it
  obtain ⟨bytes, there⟩ := tried.source
  obtain ⟨same, place, found, after⟩ := FileTree.dropped_of_fileContent there deleted.files
  refine ⟨?_, ?_, ?_⟩
  · exact ⟨place, same.locate found, by simp [after]⟩
  · exact tried.unwritten.trans (FileTree.Unwritten.of_removed after)
  · exact FileTree.pathExists_distinct (apart u).1 same found after

/-- The page is written: neither source nor script are touched by it. -/
theorem published (apart : s.SourceApart) {bytes : List UInt8} {f g : Folder}
    (stored : FileTree.storeFile f (s.pagePath u) bytes = .ok g)
    (gone : FileTree.Gone f (s.sourcePath u)) :
    FileTree.Gone g (s.sourcePath u) ∧
      FileTree.pathExists g (s.scriptPath u) = FileTree.pathExists f (s.scriptPath u) := by
  obtain ⟨place, executable, found, after⟩ := FileTree.look_storeFile stored
  have same := FileTree.sameDirs_storeFile stored
  constructor
  · exact gone.distinct (apart u).2.symm same found after
  · exact FileTree.pathExists_distinct (s.apart_pagePath_scriptPath u) same found after

theorem Started.of_calls {x after : World} {call : Call} (started : s.Started u content w x call)
    (same : after.calls = x.calls) : s.Started u content w after call :=
  ⟨same.trans started.alone, started.launch, started.last, started.held⟩

/-- What is answered after one process: with a script the page is written, and without one the
answer says why there is none. -/
theorem answered_of_started (apart : s.SourceApart) {t x after : World} {call : Call}
    {result : ToolchainResult} {response : Response} (tried : s.Tried u w t)
    (deleted : Deleted (s.sourcePath u) t x)
    (started : s.Started u content w t call)
    (left : t.files = (s.runner w.calls.length call.launch call.files).2)
    (judged : (Toolchain.verdict call.launch
        (s.runner w.calls.length call.launch call.files).1).bind
      (s.toolchain.compiled t.files (s.scriptPath u)) = .ok result)
    (returned : (s.compileAnswer u.toText (s.scriptPath u).name result).run
      (s.readied x (s.scriptPath u) x.files) = (.ok response, after)) :
    FileTree.Gone after.files (s.sourcePath u) ∧
      ((response = .compileOk u.toText ∧ s.Finished u content w after) ∨
        (FileTree.Unwritten (s.pagePath u) w.files after.files ∧
          s.Declined u content w after response)) := by
  obtain ⟨gone, unwritten, kept⟩ := released apart tried deleted
  obtain ⟨calls, answered⟩ := compileAnswer_returned returned
  rw [← pagePath] at answered
  simp only [readied_files, readied_timers, readied_calls, readied_clock] at calls answered
  have again := started.of_calls (calls.trans deleted.calls)
  rw [started.launch] at judged
  obtain ⟨there, failure, unavailability⟩ := refused_of_compiled judged
  rw [left, ← started.launch] at failure unavailability
  rcases answered with ⟨ok, rfl, stored, timers⟩ | ⟨same, ⟨failed, rfl⟩ | ⟨unavailable, rfl⟩⟩
  · -- the script that was there after the process outlives the cleanup and the writing of the page
    obtain ⟨source, script⟩ := published apart stored gone
    refine ⟨source, .inl ⟨rfl, ⟨call, again⟩, ?_, ?_, ?_⟩⟩
    · rw [script, kept, there ok]
    · rw [FileTree.fileContent_storeFile stored, pageText, scriptPath,
        s.name_generatedPath u (by decide)]
    · rw [timers, deleted.timers, deleted.clock, tried.timers, tried.clock]
      simp
  · rw [same]
    exact ⟨gone, .inr ⟨unwritten, .refused again (failure failed)⟩⟩
  · rw [same]
    exact ⟨gone, .inr ⟨unwritten, .refused again (unavailability unavailable)⟩⟩

/-- What is answered without a process: the source has a surrogate. -/
theorem answered_of_rejected (apart : s.SourceApart) {t x after : World} {fault : Utf8.Unencodable}
    (tried : s.Tried u w t) (deleted : Deleted (s.sourcePath u) t x)
    (unencodable : Utf8.encode content = .error fault) (idle : t.calls = w.calls)
    (left : after = s.readied x (s.scriptPath u) x.files) :
    FileTree.Gone after.files (s.sourcePath u) ∧
      FileTree.Unwritten (s.pagePath u) w.files after.files ∧
      s.Declined u content w after (.compileFailed (rejection fault)) := by
  obtain ⟨gone, unwritten, -⟩ := released apart tried deleted
  have surrogate : ¬ content.Encodable := by
    intro valid
    rw [Utf8.encode_of_encodable valid] at unencodable
    cases unencodable
  -- the first surrogate is the fault that the answer names
  obtain ⟨other, same, found⟩ := Utf8.encode_of_not_encodable surrogate
  obtain rfl : other = fault := Except.error.inj (same.symm.trans unencodable)
  obtain ⟨before, c, rest, split, valid, isSurrogate, position⟩ :=
    Utf8.firstSurrogate?_eq_some found
  subst left
  refine ⟨gone, unwritten, ?_⟩
  rw [rejection, position]
  exact .unencodable split valid isSurrogate (deleted.calls.trans idle)

/-! ## The whole -/

/-- A compilation that is answered has made its artifact and has found or made the directory of
public files. -/
theorem made_of_returned {response : Response} {after : World}
    (returned : (s.compileModule content).run w = (.ok response, after)) :
    ∃ (u : Uuid) (v : World),
      (s.newArtifact s.settings.sourceExtension).run w = (.ok ⟨u.toText, s.sourcePath u⟩, v) ∧
      (FileTree.makeDirs v.files s.genDir).2 = none := by
  rcases made : (s.newArtifact s.settings.sourceExtension).run w with ⟨failure | artifact, v⟩
  · rw [(compileModule_of_unmade content made).1] at returned
    cases returned
  obtain ⟨u, rfl⟩ := artifact_of_made made
  refine ⟨u, v, rfl, ?_⟩
  cases dirs : (FileTree.makeDirs v.files s.genDir).2 with
  | none => rfl
  | some fault =>
      rw [run_compileModule_of_refused content made dirs] at returned
      cases returned

/-- The meaning of a compilation that is answered, where temporary and public files lie in different
directories, no source has the place of its script or page, and compilations leave sources and pages
alone. The source is gone. If there is a script, one process was started on a file that held just
the content, the script exists, the page holds what loads it, and the deletions of all three are
pending. If there is none, no page was written, and the answer is what the process said, why it did
not run, that it left no script, or where the source has a surrogate. -/
theorem compileModule_returns (dirs : s.tempDir.Distinct s.genDir)
    (apart : FilePath.slash ∈ s.settings.sourceExtension → s.SourceApart)
    (considerate : s.Considerate) {response : Response} {after : World}
    (returned : (s.compileModule content).run w = (.ok response, after)) :
    ∃ (u : Uuid) (v : World),
      (s.newArtifact s.settings.sourceExtension).run w = (.ok ⟨u.toText, s.sourcePath u⟩, v) ∧
      FileTree.Gone after.files (s.sourcePath u) ∧
      ((response = .compileOk u.toText ∧ s.Finished u content w after) ∨
        (FileTree.Unwritten (s.pagePath u) w.files after.files ∧
          s.Declined u content w after response)) := by
  -- without a separator in its extension a source stays in its directory
  have apart : s.SourceApart := by
    by_cases slash : FilePath.slash ∈ s.settings.sourceExtension
    · exact apart slash
    · exact sourceApart_of_dirs dirs slash
  obtain ⟨u, v, made, there⟩ := made_of_returned returned
  refine ⟨u, v, made, ?_⟩
  obtain ⟨x, deleted, run⟩ := run_compileModule content made there
  obtain ⟨tried, body⟩ := compileArtifact_cases content apart considerate made
  dsimp only at deleted run tried body
  rw [← scriptPath] at deleted run
  rw [run] at returned
  rcases body with ⟨fault, unencodable, answer, idle⟩ | ⟨call, started, left, judged⟩
  · rw [answer] at returned
    cases returned
    obtain ⟨gone, unwritten, declined⟩ :=
      answered_of_rejected apart tried deleted unencodable idle rfl
    exact ⟨gone, .inr ⟨unwritten, declined⟩⟩
  · rw [judged] at returned
    -- a process whose end is no result leaves no answer
    cases result : (Toolchain.verdict call.launch
        (s.runner w.calls.length call.launch call.files).1).bind
      (s.toolchain.compiled _ (s.scriptPath u)) with
    | error failure =>
        rw [result] at returned
        cases returned
    | ok found =>
        rw [result] at returned
        exact answered_of_started apart tried deleted started left result returned

end

/-! ## A service -/

/-- The obedient compiler writes the script and nothing else. -/
theorem files_obedientRunner (n : Nat) (u : Uuid) (files : Folder) :
    let left := (obedientService.runner n (obedientService.compileLaunch u) files).2
    left = files ∨
      FileTree.storeFile files (obedientService.scriptPath u) [0x3B] = .ok left := by
  have reversed : (obedientService.compileLaunch u).argv.reverse =
      (obedientService.sourcePath u).toText :: (obedientService.scriptPath u).toText ::
        [lit "-o", lit "--include=include", lit "--no-ghc", lit "fay"] := by
    rw [compileLaunch, Toolchain.compileArgv]
    rfl
  have program : (obedientService.compileLaunch u).program = lit "fay" := by
    rw [compileLaunch, Toolchain.compileArgv]
    rfl
  have named : FilePath.ofText (obedientService.scriptPath u).toText =
      obedientService.scriptPath u := by
    rw [scriptPath, FilePath.ofText_toText (obedientService.wellFormed_generatedPath _ _)]
  have runner : obedientService.runner = obedientRunner := rfl
  rw [runner, obedientRunner]
  simp only [reversed, program, named, if_true]
  cases FileTree.storeFile files (obedientService.scriptPath u) [0x3B] with
  | error fault => exact .inl rfl
  | ok left => exact .inr rfl

theorem dirs_obedientService : obedientService.tempDir.Distinct obedientService.genDir := by
  have other : obedientService.tempDir.home ≠ obedientService.genDir.home := by decide
  exact other

theorem considerate_obedientService : obedientService.Considerate where
  source := by
    intro n u files bytes held
    rcases files_obedientRunner n u files with same | stored
    · rw [same, held]
    · have apart := sourceApart_of_dirs dirs_obedientService (by decide) u
      obtain ⟨place, executable, led, after⟩ := FileTree.look_storeFile stored
      obtain ⟨there, x, found, shown⟩ := FileTree.fileContent_iff.1 held
      have other := FileTree.ne_of_distinct apart.1 found led
      refine FileTree.fileContent_iff.2 ⟨there, x, ?_, ?_⟩
      · exact (FileTree.sameDirs_storeFile stored).locate found
      · rw [after, if_neg other, shown]
  page := by
    intro n u files
    rcases files_obedientRunner n u files with same | stored
    · rw [same]
      exact FileTree.Unwritten.refl _ _
    · exact FileTree.Unwritten.storeFile (obedientService.apart_pagePath_scriptPath u).symm stored

/-- A compilation by the obedient compiler is answered with what finished says. -/
theorem compileModule_returns_obedient :
    obedientService.tempDir.Distinct obedientService.genDir ∧ obedientService.Considerate ∧
    ∃ (u : Uuid) (after : World), (obedientService.compileModule (lit "main")).run emptyWorld =
        (.ok (.compileOk u.toText), after) ∧
      FileTree.Gone after.files (obedientService.sourcePath u) ∧
      obedientService.Finished u (lit "main") emptyWorld after := by
  refine ⟨dirs_obedientService, considerate_obedientService, ?_⟩
  have ok : ((obedientService.compileModule (lit "main")).run emptyWorld).1.toOption =
      some (.compileOk (Uuid.ofNat 1).toText) := by decide +kernel
  rcases run : (obedientService.compileModule (lit "main")).run emptyWorld with ⟨r, after⟩
  rw [run] at ok
  obtain rfl := ok_of_toOption ok
  obtain ⟨u, v, -, gone, ⟨same, finished⟩ | ⟨-, declined⟩⟩ :=
    compileModule_returns dirs_obedientService
      (fun slash => absurd slash (by decide)) considerate_obedientService run
  · rw [same]
    exact ⟨u, after, rfl, gone, finished⟩
  · exact absurd rfl (declined.ne_compileOk (Uuid.ofNat 1).toText)

/-! ## Extensions with slashes -/

/-- A service whose first source has the path of its script, with a compiler that does nothing. -/
def aliasingService : Service :=
  { obedientService with
    settings :=
      { sourceExtension := lit "/../../static/gen/00000000-0000-0000-0000-000000000001.js" }
    runner := fun _ _ files => (.exited 0 none, files) }

/-- A service whose sources have paths through a directory of their own, with a compiler that
removes the first of these directories. -/
def crookedService : Service :=
  { obedientService with
    settings := { sourceExtension := lit "/../x" }
    runner := fun n launch files =>
      obedientRunner n launch (FileTree.removeTree files
        (FilePath.ofText (lit "tmp/00000000-0000-0000-0000-000000000001"))) }

/-- A world in which the paths of these sources lead somewhere. -/
def crookedWorld : World where
  files := .dir (lit "static") (.dir (lit "gen") .empty .empty)
    (.dir (lit "tmp") (.dir (Uuid.ofNat 1).toText .empty .empty) .empty)

/-- With a slash in the extension of sources a compilation may succeed although its cleanup has
deleted the script, for that has the place of the source, or although its source is still there, for
its path leads nowhere any more. -/
theorem compileModule_success_without_script :
    (aliasingService.tempDir.home ≠ aliasingService.genDir.home ∧
      (∀ n launch files, (aliasingService.runner n launch files).2 = files) ∧
      ((aliasingService.compileModule (lit "main")).run crookedWorld).1.toOption =
        some (.compileOk (Uuid.ofNat 1).toText) ∧
      FileTree.pathExists ((aliasingService.compileModule (lit "main")).run crookedWorld).2.files
        (aliasingService.generatedPath (Uuid.ofNat 1).toText (lit ".js")) = .ok false) ∧
    (crookedService.tempDir.home ≠ crookedService.genDir.home ∧
      ((crookedService.compileModule (lit "main")).run crookedWorld).1.toOption =
        some (.compileOk (Uuid.ofNat 1).toText) ∧
      crookedWorld.files.look [lit "tmp", lit "x"] = none ∧
      ((crookedService.compileModule (lit "main")).run crookedWorld).2.files.look
        [lit "tmp", lit "x"] = some (.file (Utf8.encodeAll (lit "main")) false)) := by
  have aliased : aliasingService.tempDir.home ≠ aliasingService.genDir.home ∧
      ((aliasingService.compileModule (lit "main")).run crookedWorld).1.toOption =
        some (.compileOk (Uuid.ofNat 1).toText) ∧
      (FileTree.pathExists ((aliasingService.compileModule (lit "main")).run crookedWorld).2.files
        (aliasingService.generatedPath (Uuid.ofNat 1).toText (lit ".js"))).toOption =
          some false := by
    decide +kernel
  refine ⟨⟨aliased.1, fun _ _ _ => rfl, aliased.2.1, ok_of_toOption aliased.2.2⟩, ?_⟩
  decide +kernel

end CompileService.Service
